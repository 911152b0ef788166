import HostHome.Proofs.FileSystem.Places

/-!
# File systems with the same entries

What a path leads to, and what a file holds, depends on the entries alone.  So two
file systems that hold the same at each location cannot be told apart by reading.
-/

namespace HostHome.FileSystem

/-- The file systems hold the same at each location, and paths start in the same directory. -/
structure Alike (files later : FileSystem) : Prop where
  current : later.current = files.current
  entries : ∀ location, later.entryAt? location = files.entryAt? location

variable {files later : FileSystem} {path : Path} {location : Location} {entry : Entry}

theorem Alike.refl (files : FileSystem) : Alike files files := ⟨rfl, fun _ => rfl⟩

theorem Alike.symm (alike : Alike files later) : Alike later files :=
  ⟨alike.current.symm, fun location => (alike.entries location).symm⟩

theorem Alike.grows (alike : Alike files later) : Grows files later :=
  ⟨alike.current, fun found => ⟨_, (alike.entries _).trans found, rfl⟩⟩

theorem Alike.find (alike : Alike files later) (found : files.find path = .ok (location, entry)) :
    later.find path = .ok (location, entry) := by
  obtain ⟨now, foundNow, present, _⟩ := alike.grows.find found
  have before := (find_eq_ok_iff.1 found).2.1
  rw [alike.entries, before, Option.some.injEq] at present
  rw [foundNow, present]

theorem Alike.readFile (alike : Alike files later) {content : Text.Bytes}
    (read : files.readFile path = .ok content) : later.readFile path = .ok content := by
  unfold FileSystem.readFile at read ⊢
  cases found : files.find path with
  | error error => simp [found, bind, Except.bind] at read
  | ok place =>
      rw [found] at read
      rwa [alike.find found]

end HostHome.FileSystem
