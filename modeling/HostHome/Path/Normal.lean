import HostHome.Path.Basic

/-!
# Normal forms of paths

Drop the dots from a path and let two dots take back the name before them,
without a look at any directory. Above the root there is only the root, and two
dots with nothing before them stay.
-/

namespace HostHome.Path

/-- Take one component into a normal form, given with its last component first. -/
def normalStep (reached : List Component) (component : Component) : List Component :=
  match component, reached with
  | .here, _ => reached
  | .up, .name _ :: before => before
  | .up, .root :: _ => reached
  | .up, _ => .up :: reached
  | .root, _ => [.root]
  | .name name, _ => .name name :: reached

/-- The components of the normal form of a path. -/
def normalized (path : Path) : List Component := (path.components.foldl normalStep []).reverse

end HostHome.Path
