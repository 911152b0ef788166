import HostHome.Path.Normal
import HostHome.Proofs.Path.Components

/-!
# Normal forms of all paths

A normal form is built component by component, and two dots take back what was built
last if this is a name.  What has been built stays a row of names above the root, or
above some two dots at the beginning of a relative path.  Such a path is its own normal
form, and it can take the place of a path from which others go on.
-/

namespace HostHome

open HostHome.Text (Bytes)

namespace Path

def settle (reached : Path) (component : Component) : Path :=
  match component, reached.components.getLast? with
  | .here, _ => reached
  | .up, some (.name _) => reached.parent?.getD reached
  | .up, some .root => reached
  | other, _ => reached.extend other

def normalForm (path : Path) : Path := path.components.foldl settle ⟨[]⟩

/-- Names behind the root, or behind any number of two dots. -/
inductive IsNormal : Bool → List Component → Prop where
  | absolute (names : List Bytes) (ordinary : ∀ name ∈ names, OrdinaryName name) :
      IsNormal true (.root :: names.map .name)
  | relative (ups : Nat) (names : List Bytes) (ordinary : ∀ name ∈ names, OrdinaryName name) :
      IsNormal false (List.replicate ups .up ++ names.map .name)

/-- Names above the root or above some two dots, with the last component first. -/
inductive Settled : Bool → List Component → Prop where
  | root : Settled true [.root]
  | ups (count : Nat) : Settled false (List.replicate count .up)
  | name {absolute : Bool} {reached : List Component} {own : Bytes} :
      Settled absolute reached → OrdinaryName own → Settled absolute (.name own :: reached)

variable {absolute : Bool} {reached rest : List Component} {component : Component}

theorem IsNormal.concat {components : List Component} {own : Bytes}
    (normal : IsNormal absolute components) (ordinary : OrdinaryName own) :
    IsNormal absolute (components ++ [.name own]) := by
  have all {names : List Bytes} (each : ∀ name ∈ names, OrdinaryName name) :
      ∀ name ∈ names ++ [own], OrdinaryName name := by
    simpa [or_imp, forall_and] using ⟨each, ordinary⟩
  cases normal with
  | absolute names each => simpa using IsNormal.absolute _ (all each)
  | relative ups names each => simpa using IsNormal.relative ups _ (all each)

theorem IsNormal.head?_eq_root_iff {components : List Component}
    (normal : IsNormal absolute components) : components.head? = some .root ↔ absolute := by
  cases normal with
  | absolute names _ => simp
  | relative ups names _ => cases ups <;> cases names <;> simp [List.replicate_succ]

theorem Settled.isNormal (settled : Settled absolute reached) :
    IsNormal absolute reached.reverse := by
  induction settled with
  | root => exact .absolute [] (by simp)
  | ups count => simpa using IsNormal.relative count [] (by simp)
  | name _ ordinary ih =>
      rw [List.reverse_cons]
      exact ih.concat ordinary

/-- One component keeps the names above the root or above the two dots. -/
theorem Settled.step (settled : Settled absolute reached)
    (goes : component = .here ∨ component.Follows) :
    Settled absolute (normalStep reached component) := by
  cases component with
  | root => simp [Component.Follows] at goes
  | here => exact settled
  | name own => exact settled.name (by simpa [Component.Follows] using goes)
  | up =>
      cases settled with
      | root => exact .root
      | name below _ => exact below
      | ups count =>
          cases count with
          | zero => exact .ups 1
          | succ count => exact .ups (count + 2)

theorem Settled.foldl (settled : Settled absolute reached)
    (go : ∀ component ∈ rest, component.Follows) :
    Settled absolute (rest.foldl normalStep reached) := by
  induction rest generalizing reached with
  | nil => exact settled
  | cons component rest ih =>
      exact ih (settled.step (.inr (go component (by simp))))
        fun other member => go other (by simp [member])

theorem settled_first {path : Path} {first : Component}
    (spelled : path.components = first :: rest) :
    Settled path.isAbsolute (normalStep [] first) := by
  have begins := path.isAbsolute_iff_components
  simp only [spelled, List.head?_cons, Option.some.injEq] at begins
  rcases (follows_of_components spelled).1 with rfl | inside
  · rw [begins.2 rfl]
    exact .root
  · have relative : path.isAbsolute = false := by
      rw [Bool.eq_false_iff, Ne, begins]
      rintro rfl
      simp [Component.Follows] at inside
    rw [relative]
    exact (Settled.ups 0).step inside

theorem settled_foldl_components (path : Path) :
    Settled path.isAbsolute (path.components.foldl normalStep []) := by
  cases spelled : path.components with
  | nil =>
      have relative : path.isAbsolute = false := by
        simpa [spelled] using path.isAbsolute_iff_components
      rw [relative]
      exact .ups 0
  | cons first rest => exact (settled_first spelled).foldl (follows_of_components spelled).2

/-- Nothing more is dropped from a normal form. -/
theorem Settled.foldl_reverse (settled : Settled absolute reached) :
    reached.reverse.foldl normalStep [] = reached := by
  induction settled with
  | root => rfl
  | name _ _ ih => rw [List.reverse_cons, List.foldl_append, ih]; rfl
  | ups count =>
      rw [List.reverse_replicate]
      induction count with
      | zero => rfl
      | succ count ih =>
          rw [List.replicate_succ', List.foldl_append, ih, ← List.replicate_succ',
            List.replicate_succ]
          cases count <;> rfl

theorem components_ofComponents_cons {first : Component}
    (starts : first = .root ∨ first.Follows) (go : ∀ component ∈ rest, component.Follows) :
    (ofComponents (first :: rest)).components = first :: rest := by
  rw [ofComponents_eq, List.foldl_cons]
  exact ((spells_first (starts.imp_right .inr)).foldl go).components_eq

theorem follows_of_mem {ups : Nat} {names : List Bytes}
    (ordinary : ∀ name ∈ names, OrdinaryName name)
    (member : component ∈ List.replicate ups .up ++ names.map .name) : component.Follows := by
  rcases List.mem_append.1 member with up | named
  · rw [List.eq_of_mem_replicate up]
    trivial
  · obtain ⟨name, within, rfl⟩ := List.mem_map.1 named
    exact ordinary name within

theorem IsNormal.components_ofComponents {components : List Component}
    (normal : IsNormal absolute components) :
    (ofComponents components).components = components := by
  cases normal with
  | absolute names ordinary =>
      refine components_ofComponents_cons (.inl rfl) fun component member => ?_
      obtain ⟨name, within, rfl⟩ := List.mem_map.1 member
      exact ordinary name within
  | relative ups names ordinary =>
      have follow : ∀ component ∈ List.replicate ups Component.up ++ names.map .name,
          component.Follows := fun _ => follows_of_mem ordinary
      cases some : List.replicate ups Component.up ++ names.map .name with
      | nil => rfl
      | cons first rest =>
          rw [some] at follow
          exact components_ofComponents_cons (.inr (follow first (by simp)))
            fun component member => follow component (by simp [member])

/-- A component does to a path in normal form what it does to the components. -/
theorem settle_ofComponents (settled : Settled absolute reached) (component : Component) :
    (ofComponents reached.reverse).settle component =
      ofComponents (normalStep reached component).reverse := by
  have spelled := settled.isNormal.components_ofComponents
  have last : (ofComponents reached.reverse).components.getLast? = reached.head? := by
    rw [spelled, List.getLast?_reverse]
  have further : (ofComponents reached.reverse).extend component =
      ofComponents (component :: reached).reverse := by
    rw [ofComponents_eq, ofComponents_eq, List.reverse_cons, List.foldl_append]
    rfl
  unfold settle
  rw [last]
  cases component with
  | here | root => rfl
  | name own => exact further
  | up =>
      cases reached with
      | nil => rfl
      | cons first below =>
          cases first with
          | name own =>
              have above : (ofComponents (Component.name own :: below).reverse).parent? =
                  some (ofComponents below.reverse) := by
                simp only [parent?, spelled]
                simp
              exact congrArg (Option.getD · _) above
          | root => rfl
          | up | here => exact further

theorem foldl_settle (settled : Settled absolute reached)
    (go : ∀ component ∈ rest, component.Follows) :
    rest.foldl settle (ofComponents reached.reverse) =
      ofComponents (rest.foldl normalStep reached).reverse := by
  induction rest generalizing reached with
  | nil => rfl
  | cons component rest ih =>
      rw [List.foldl_cons, List.foldl_cons, settle_ofComponents settled]
      exact ih (settled.step (.inr (go component (by simp))))
        fun other member => go other (by simp [member])

/-- The normal form is spelled by the normalized components. -/
theorem normalForm_eq (path : Path) : path.normalForm = ofComponents path.normalized := by
  unfold normalForm normalized
  cases spelled : path.components with
  | nil => rfl
  | cons first rest =>
      have begins := settle_ofComponents (.ups 0) first
      rw [List.foldl_cons, List.foldl_cons,
        ← foldl_settle (settled_first spelled) (follows_of_components spelled).2]
      exact congrArg (rest.foldl settle) begins

theorem isNormal_normalized (path : Path) : IsNormal path.isAbsolute path.normalized :=
  (settled_foldl_components path).isNormal

theorem components_normalForm (path : Path) : path.normalForm.components = path.normalized := by
  rw [normalForm_eq]
  exact (isNormal_normalized path).components_ofComponents

theorem isAbsolute_normalForm (path : Path) : path.normalForm.isAbsolute = path.isAbsolute := by
  have begins := (isNormal_normalized path).head?_eq_root_iff
  rw [← components_normalForm] at begins
  rw [Bool.eq_iff_iff, isAbsolute_iff_components, begins]

theorem foldl_normalized (path : Path) :
    path.normalized.foldl normalStep [] = path.components.foldl normalStep [] :=
  (settled_foldl_components path).foldl_reverse

theorem normalForm_normalForm (path : Path) : path.normalForm.normalForm = path.normalForm := by
  rw [normalForm_eq path.normalForm, normalized, components_normalForm, foldl_normalized,
    normalForm_eq, normalized]

theorem foldl_join (base : Path) {next : Path} (relative : next.isAbsolute = false) :
    (base.join next).components.foldl normalStep [] =
      (next.pieces.filterMap componentOf?).foldl normalStep
        (base.components.foldl normalStep []) := by
  by_cases nonempty : base.bytes = []
  -- Behind an empty path the other one keeps a dot at its beginning, which no normal form has.
  · obtain ⟨bytes⟩ := base
    cases nonempty
    have alone : (Path.mk []).join next = next := by simp [join, relative]
    have none : (Path.mk []).components = [] := by decide
    rw [alone, none, components, List.foldl_append]
    congr 1
    unfold startOf
    rw [if_neg (by simp [relative])]
    split <;> rfl
  · rw [components_join nonempty relative, List.foldl_append]

/-- A path can be taken into its normal form before another one goes on from it. -/
theorem normalForm_join (base : Path) {next : Path} (relative : next.isAbsolute = false) :
    (base.join next).normalForm = (base.normalForm.join next).normalForm := by
  simp only [normalForm_eq (base.join next), normalForm_eq (base.normalForm.join next), normalized,
    foldl_join _ relative, components_normalForm]
  rw [← normalized, foldl_normalized]

section Names

variable {name : Bytes} (ordinary : OrdinaryName name) (base : Path)
include ordinary

theorem normalized_joinName :
    (base.join ⟨name⟩).normalized = base.normalized ++ [.name name] := by
  simp [normalized, components_joinName ordinary, normalStep]

theorem normalForm_joinName : (base.join ⟨name⟩).normalForm = base.normalForm.join ⟨name⟩ := by
  rw [normalForm_eq, normalForm_eq, normalized_joinName ordinary, ofComponents_eq, ofComponents_eq,
    List.foldl_append]
  rfl

end Names

end Path

end HostHome
