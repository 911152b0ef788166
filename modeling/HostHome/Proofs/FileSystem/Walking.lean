import HostHome.FileSystem.Walk

/-!
# Walks as a relation

A walk that ends somewhere is described step by step, with the number of links
that it leaves unused.  Walks can then be put together and taken apart, and this
is how all facts on longer paths follow from facts on shorter ones.
-/

namespace HostHome.FileSystem

open HostHome.Text (Bytes)

/-- A walk from a place along some steps.  The numbers are those of the links that
may be followed before the walk and after it. -/
inductive Walks (files : FileSystem) :
    Nat → Location → List Step → Nat → Spot → Prop
  | arrive (links : Nat) (place : Location) :
      Walks files links place [] links (.entry place false)
  | arriveSlashed (links : Nat) (place : Location) :
      Walks files links place [.slash] links (.entry place true)
  | slash {links left : Nat} {place : Location} {rest : List Step} {spot : Spot}
      (more : rest ≠ []) (walk : Walks files links place rest left spot) :
      Walks files links place (.slash :: rest) left spot
  | stay {links left : Nat} {place : Location} {rest : List Step} {spot : Spot}
      (within : files.isDirectoryAt place) (walk : Walks files links place rest left spot) :
      Walks files links place (.stay :: rest) left spot
  | up {links left : Nat} {place : Location} {rest : List Step} {spot : Spot}
      (within : files.isDirectoryAt place) (walk : Walks files links place.tail rest left spot) :
      Walks files links place (.up :: rest) left spot
  | vacant {links : Nat} {place : Location} {name : Bytes} {rest : List Step}
      (within : files.isDirectoryAt place) (short : name.length ≤ nameLimit)
      (free : files.entryAt? (name :: place) = none) (last : rest.all (· = .slash)) :
      Walks files links place (.name name :: rest) links (.vacant place name (!rest.isEmpty))
  | enter {links left : Nat} {place : Location} {name : Bytes} {rest : List Step} {spot : Spot}
      {entry : Entry} (within : files.isDirectoryAt place) (short : name.length ≤ nameLimit)
      (found : files.entryAt? (name :: place) = some entry)
      (direct : ∀ inode target, entry ≠ .symbolicLink inode target)
      (walk : Walks files links (name :: place) rest left spot) :
      Walks files links place (.name name :: rest) left spot
  | follow {links left : Nat} {place : Location} {name : Bytes} {rest : List Step} {spot : Spot}
      {inode : Nat} {target : Path} (within : files.isDirectoryAt place)
      (short : name.length ≤ nameLimit)
      (found : files.entryAt? (name :: place) = some (.symbolicLink inode target))
      (walk : Walks files links (startOf place target) (target.steps ++ rest) left spot) :
      Walks files (links + 1) place (.name name :: rest) left spot

variable {files : FileSystem} {links left : Nat} {place : Location} {spot : Spot}

theorem Walks.walk_eq {steps : List Step} (walks : Walks files links place steps left spot) :
    files.walk false links place steps = .ok spot := by
  induction walks with
  | arrive links place => simp [walk]
  | arriveSlashed links place => simp [walk]
  | slash more walks ih =>
      rw [walk]
      · exact ih
      · exact more
  | stay within walks ih => simpa [walk, within] using ih
  | up within walks ih => simpa [walk, within] using ih
  | vacant within short free last =>
      simpa [walk, within, Nat.not_lt.2 short, free] using last
  | @enter links left place name rest spot entry within short found direct walks ih =>
      rw [walk]
      cases entry with
      | symbolicLink inode target => exact absurd rfl (direct inode target)
      | directory permissions => simpa [within, Nat.not_lt.2 short, found] using ih
      | file inode permissions content => simpa [within, Nat.not_lt.2 short, found] using ih
  | follow within short found walks ih =>
      simpa [walk, within, Nat.not_lt.2 short, found] using ih

theorem exists_walks {steps : List Step} {writing : Bool}
    (reached : files.walk writing links place steps = .ok spot) :
    ∃ left, Walks files links place steps left spot := by
  fun_induction walk files writing links place steps with
  | case1 links place => cases reached; exact ⟨_, .arrive links place⟩
  | case2 links place => cases reached; exact ⟨_, .arriveSlashed links place⟩
  | case3 links place rest more ih =>
      obtain ⟨left, walks⟩ := ih reached
      exact ⟨left, .slash more walks⟩
  | case4 links place rest within ih =>
      obtain ⟨left, walks⟩ := ih reached
      exact ⟨left, .stay within walks⟩
  | case6 links place rest within ih =>
      obtain ⟨left, walks⟩ := ih reached
      exact ⟨left, .up within walks⟩
  | case11 links place name rest within _ short free last =>
      cases reached
      exact ⟨links, .vacant (by simpa using within) (Nat.not_lt.1 short) free last⟩
  | case14 place name rest within _ short inode target found links ih =>
      obtain ⟨left, walks⟩ := ih reached
      exact ⟨left, .follow (by simpa using within) (Nat.not_lt.1 short) found walks⟩
  | case15 links place name rest within _ short entry direct found ih =>
      obtain ⟨left, walks⟩ := ih reached
      refine ⟨left, .enter (by simpa using within) (Nat.not_lt.1 short) found ?_ walks⟩
      exact fun inode target same => direct inode target same
  | case5 | case7 | case8 | case9 | case10 | case12 | case13 => cases reached

theorem Walks.unique {steps : List Step} {otherLeft : Nat} {otherSpot : Spot}
    (walks : Walks files links place steps left spot)
    (other : Walks files links place steps otherLeft otherSpot) :
    left = otherLeft ∧ spot = otherSpot := by
  induction walks with
  | arrive links place => cases other; exact ⟨rfl, rfl⟩
  | arriveSlashed links place =>
      cases other with
      | arriveSlashed => exact ⟨rfl, rfl⟩
      | slash more _ => exact absurd rfl more
  | slash more walks ih =>
      cases other with
      | arriveSlashed => exact absurd rfl more
      | slash _ other => exact ih other
  | stay within walks ih => cases other with | stay _ other => exact ih other
  | up within walks ih => cases other with | up _ other => exact ih other
  | vacant within short free last =>
      cases other with
      | vacant => exact ⟨rfl, rfl⟩
      | enter _ _ found => simp [free] at found
      | follow _ _ found => simp [free] at found
  | enter within short found direct walks ih =>
      cases other with
      | vacant _ _ free => simp [found] at free
      | enter _ _ _ _ other => exact ih other
      | follow _ _ linkFound =>
          rw [found, Option.some.injEq] at linkFound
          exact absurd linkFound (direct _ _)
  | follow within short found walks ih =>
      cases other with
      | vacant _ _ free => simp [found] at free
      | enter _ _ otherFound direct =>
          rw [found, Option.some.injEq] at otherFound
          exact absurd otherFound.symm (direct _ _)
      | follow _ _ otherFound other =>
          simp only [found, Option.some.injEq, Entry.symbolicLink.injEq] at otherFound
          obtain ⟨_, rfl⟩ := otherFound
          exact ih other

theorem Walks.append {steps rest : List Step} {middle : Nat} {location : Location}
    {slashed : Bool} (first : Walks files links place steps middle (.entry location slashed))
    (second : Walks files middle location rest left spot)
    (further : ¬ rest.all (· = .slash)) : Walks files links place (steps ++ rest) left spot := by
  generalize reached : Spot.entry location slashed = end_ at first
  induction first with
  | arrive links place => cases reached; exact second
  | arriveSlashed links place =>
      cases reached
      refine .slash ?_ second
      rintro rfl
      simp at further
  | slash more walks ih => exact .slash (by simp [more]) (ih second reached)
  | stay within walks ih => exact .stay within (ih second reached)
  | up within walks ih => exact .up within (ih second reached)
  | vacant => cases reached
  | enter within short found direct walks ih =>
      exact .enter within short found direct (ih second reached)
  | follow within short found walks ih =>
      rw [List.append_assoc] at ih
      exact .follow within short found (ih second reached)

theorem Walks.behindSlash {steps : List Step} {location : Location} {slashed : Bool}
    (walks : Walks files links place steps left (.entry location slashed)) :
    ∃ stillSlashed,
      Walks files links place (.slash :: steps) left (.entry location stillSlashed) := by
  cases steps with
  | nil => cases walks; exact ⟨_, .arriveSlashed links _⟩
  | cons step steps => exact ⟨_, .slash (by simp) walks⟩

/-- A walk goes through the place to which its first steps lead. -/
theorem Walks.split {steps rest all : List Step}
    (walks : Walks files links place all left spot) (joined : all = steps ++ rest)
    (further : ¬ rest.all (· = .slash)) :
    ∃ middle location slashed,
      Walks files links place steps middle (.entry location slashed) ∧
        Walks files middle location rest left spot := by
  induction walks generalizing steps with
  | arrive links place =>
      obtain ⟨rfl, rfl⟩ := List.nil_eq_append_iff.1 joined
      simp at further
  | arriveSlashed links place =>
      obtain ⟨rfl, rfl⟩ | ⟨steps, rfl, ends⟩ := List.cons_eq_append_iff.1 joined
      · simp at further
      · obtain ⟨rfl, rfl⟩ := List.nil_eq_append_iff.1 ends
        simp at further
  | slash more walks ih =>
      obtain ⟨rfl, rfl⟩ | ⟨steps, rfl, rfl⟩ := List.cons_eq_append_iff.1 joined
      · exact ⟨_, _, _, .arrive _ _, .slash more walks⟩
      · obtain ⟨middle, location, slashed, first, second⟩ := ih rfl
        obtain ⟨stillSlashed, first⟩ := first.behindSlash
        exact ⟨_, _, _, first, second⟩
  | stay within walks ih =>
      obtain ⟨rfl, rfl⟩ | ⟨steps, rfl, rfl⟩ := List.cons_eq_append_iff.1 joined
      · exact ⟨_, _, _, .arrive _ _, .stay within walks⟩
      · obtain ⟨middle, location, slashed, first, second⟩ := ih rfl
        exact ⟨_, _, _, .stay within first, second⟩
  | up within walks ih =>
      obtain ⟨rfl, rfl⟩ | ⟨steps, rfl, rfl⟩ := List.cons_eq_append_iff.1 joined
      · exact ⟨_, _, _, .arrive _ _, .up within walks⟩
      · obtain ⟨middle, location, slashed, first, second⟩ := ih rfl
        exact ⟨_, _, _, .up within first, second⟩
  | vacant within short free last =>
      obtain ⟨rfl, rfl⟩ | ⟨steps, rfl, rfl⟩ := List.cons_eq_append_iff.1 joined
      · exact ⟨_, _, _, .arrive _ _, .vacant within short free last⟩
      · rw [List.all_append, Bool.and_eq_true] at last
        exact absurd last.2 further
  | enter within short found direct walks ih =>
      obtain ⟨rfl, rfl⟩ | ⟨steps, rfl, rfl⟩ := List.cons_eq_append_iff.1 joined
      · exact ⟨_, _, _, .arrive _ _, .enter within short found direct walks⟩
      · obtain ⟨middle, location, slashed, first, second⟩ := ih rfl
        exact ⟨_, _, _, .enter within short found direct first, second⟩
  | follow within short found walks ih =>
      obtain ⟨rfl, rfl⟩ | ⟨steps, rfl, rfl⟩ := List.cons_eq_append_iff.1 joined
      · exact ⟨_, _, _, .arrive _ _, .follow within short found walks⟩
      · obtain ⟨middle, location, slashed, first, second⟩ := ih (List.append_assoc ..).symm
        exact ⟨_, _, _, .follow within short found first, second⟩

theorem Walks.addSlash {steps : List Step} {location : Location} {slashed : Bool}
    (walks : Walks files links place steps left (.entry location slashed)) :
    Walks files links place (steps ++ [.slash]) left (.entry location true) := by
  generalize reached : Spot.entry location slashed = spot at walks
  induction walks with
  | arrive links place => cases reached; exact .arriveSlashed links _
  | arriveSlashed links place => cases reached; exact .slash (by simp) (.arriveSlashed links _)
  | slash more walks ih => exact .slash (by simp) (ih reached)
  | stay within walks ih => exact .stay within (ih reached)
  | up within walks ih => exact .up within (ih reached)
  | vacant => cases reached
  | enter within short found direct walks ih => exact .enter within short found direct (ih reached)
  | follow within short found walks ih =>
      rw [List.append_assoc] at ih
      exact .follow within short found (ih reached)

theorem Walks.dropSlash {steps all : List Step} {location : Location} {slashed : Bool}
    (walks : Walks files links place all left (.entry location slashed))
    (joined : all = steps ++ [.slash]) :
    ∃ stillSlashed, Walks files links place steps left (.entry location stillSlashed) := by
  generalize reached : Spot.entry location slashed = spot at walks
  induction walks generalizing steps with
  | arrive => simp at joined
  | arriveSlashed links place =>
      cases reached
      obtain rfl : steps = [] := by simpa using joined
      exact ⟨_, .arrive links _⟩
  | slash more walks ih =>
      obtain ⟨_, joined⟩ | ⟨steps, rfl, rfl⟩ := List.cons_eq_append_iff.1 joined
      · simp at joined
        exact absurd joined more
      · obtain ⟨stillSlashed, shorter⟩ := ih rfl reached
        exact shorter.behindSlash
  | stay within walks ih =>
      obtain ⟨_, joined⟩ | ⟨steps, rfl, rfl⟩ := List.cons_eq_append_iff.1 joined
      · simp at joined
      · obtain ⟨stillSlashed, shorter⟩ := ih rfl reached
        exact ⟨_, .stay within shorter⟩
  | up within walks ih =>
      obtain ⟨_, joined⟩ | ⟨steps, rfl, rfl⟩ := List.cons_eq_append_iff.1 joined
      · simp at joined
      · obtain ⟨stillSlashed, shorter⟩ := ih rfl reached
        exact ⟨_, .up within shorter⟩
  | vacant => cases reached
  | enter within short found direct walks ih =>
      obtain ⟨_, joined⟩ | ⟨steps, rfl, rfl⟩ := List.cons_eq_append_iff.1 joined
      · simp at joined
      · obtain ⟨stillSlashed, shorter⟩ := ih rfl reached
        exact ⟨_, .enter within short found direct shorter⟩
  | follow within short found walks ih =>
      obtain ⟨_, joined⟩ | ⟨steps, rfl, rfl⟩ := List.cons_eq_append_iff.1 joined
      · simp at joined
      · obtain ⟨stillSlashed, shorter⟩ := ih (List.append_assoc ..).symm reached
        exact ⟨_, .follow within short found shorter⟩

/-- The dots among the last steps of a walk that arrives can be left out. -/
theorem Walks.dropStays {steps rest all : List Step} {location : Location} {slashed : Bool}
    (walks : Walks files links place all left (.entry location slashed))
    (joined : all = steps ++ rest) :
    ∃ stillSlashed,
      Walks files links place (steps ++ rest.filter (· ≠ .stay)) left
        (.entry location stillSlashed) := by
  generalize reached : Spot.entry location slashed = spot at walks
  induction walks generalizing steps rest with
  | arrive =>
      cases reached
      obtain ⟨rfl, rfl⟩ := List.nil_eq_append_iff.1 joined
      exact ⟨_, .arrive _ _⟩
  | arriveSlashed =>
      cases reached
      obtain ⟨rfl, rfl⟩ | ⟨steps, rfl, ends⟩ := List.cons_eq_append_iff.1 joined
      · exact ⟨_, .arriveSlashed _ _⟩
      · obtain ⟨rfl, rfl⟩ := List.nil_eq_append_iff.1 ends
        exact ⟨_, .arriveSlashed _ _⟩
  | slash more walks ih =>
      obtain ⟨rfl, rfl⟩ | ⟨steps, rfl, rfl⟩ := List.cons_eq_append_iff.1 joined
      · obtain ⟨_, thinner⟩ := ih (List.nil_append _).symm reached
        simpa using thinner.behindSlash
      · obtain ⟨_, thinner⟩ := ih rfl reached
        exact thinner.behindSlash
  | stay within walks ih =>
      obtain ⟨rfl, rfl⟩ | ⟨steps, rfl, rfl⟩ := List.cons_eq_append_iff.1 joined
      · simpa using ih (List.nil_append _).symm reached
      · obtain ⟨stillSlashed, thinner⟩ := ih rfl reached
        exact ⟨stillSlashed, .stay within thinner⟩
  | up within walks ih =>
      obtain ⟨rfl, rfl⟩ | ⟨steps, rfl, rfl⟩ := List.cons_eq_append_iff.1 joined
      · obtain ⟨stillSlashed, thinner⟩ := ih (List.nil_append _).symm reached
        exact ⟨stillSlashed, by simpa using Walks.up within thinner⟩
      · obtain ⟨stillSlashed, thinner⟩ := ih rfl reached
        exact ⟨stillSlashed, .up within thinner⟩
  | vacant => cases reached
  | enter within short found direct walks ih =>
      obtain ⟨rfl, rfl⟩ | ⟨steps, rfl, rfl⟩ := List.cons_eq_append_iff.1 joined
      · obtain ⟨stillSlashed, thinner⟩ := ih (List.nil_append _).symm reached
        exact ⟨stillSlashed, by simpa using Walks.enter within short found direct thinner⟩
      · obtain ⟨stillSlashed, thinner⟩ := ih rfl reached
        exact ⟨stillSlashed, .enter within short found direct thinner⟩
  | follow within short found walks ih =>
      obtain ⟨rfl, rfl⟩ | ⟨steps, rfl, rfl⟩ := List.cons_eq_append_iff.1 joined
      · obtain ⟨stillSlashed, thinner⟩ := ih rfl reached
        exact ⟨stillSlashed, by simpa using Walks.follow within short found thinner⟩
      · obtain ⟨stillSlashed, thinner⟩ := ih (List.append_assoc ..).symm reached
        exact ⟨stillSlashed, .follow within short found (by simpa using thinner)⟩

/-- The free name at which a walk ends is short, and it is free in a directory. -/
theorem Walks.vacancy {steps : List Step} {directory : Location} {name : Bytes} {slashed : Bool}
    (walks : Walks files links place steps left (.vacant directory name slashed)) :
    files.isDirectoryAt directory ∧ name.length ≤ nameLimit ∧
      files.entryAt? (name :: directory) = none := by
  generalize reached : Spot.vacant directory name slashed = spot at walks
  induction walks with
  | arrive | arriveSlashed => cases reached
  | slash _ _ ih | stay _ _ ih | up _ _ ih | enter _ _ _ _ _ ih | follow _ _ _ _ ih =>
      exact ih reached
  | vacant within short free last => cases reached; exact ⟨within, short, free⟩

end HostHome.FileSystem
