import HostHome.Proofs.FileSystem.TreeCreation

/-!
# Trees that are created at the same time

Several parties create trees in one file system, each one directory in one step, and
take their turns in any order.  What the others add to the files are directories only,
so that a party goes the same way as it would go by itself: a directory that it would
create is created or is there already.  Hence all parties succeed that would succeed
by themselves, and together they create what each of them would create.
-/

namespace HostHome.FileSystem

open HostHome.Text (Bytes)

variable {files middle later shared : FileSystem} {mask : Nat} {path : Path}
  {paths rest : List Path} {location : Location} {entry : Entry}

/-- Everything is there as before, and what is new are directories that were created under the
mask. -/
structure Covers (mask : Nat) (files later : FileSystem) : Prop where
  current : later.current = files.current
  kept : ∀ {location : Location} {entry : Entry}, files.entryAt? location = some entry →
    later.entryAt? location = some entry
  added : ∀ {location : Location} {entry : Entry}, files.entryAt? location = none →
    later.entryAt? location = some entry → entry = .directory (permissionsUnder mask)

theorem AddsDirectories.covers (adds : AddsDirectories mask paths files later) :
    Covers mask files later :=
  ⟨adds.current, adds.kept, fun absent present => (adds.added absent present).1⟩

namespace Covers

theorem refl (files : FileSystem) : Covers mask files files := by
  have nothing : AddsDirectories mask [] files files := .refl files
  exact nothing.covers

theorem trans (first : Covers mask files middle) (second : Covers mask middle later) :
    Covers mask files later := by
  refine ⟨second.current.trans first.current, fun present => second.kept (first.kept present), ?_⟩
  intro location entry absent present
  cases between : middle.entryAt? location with
  | none => exact second.added between present
  | some old =>
      cases Option.some.inj ((second.kept between).symm.trans present)
      exact first.added absent between

theorem grows (covers : Covers mask files later) : Grows files later :=
  ⟨covers.current, fun present => ⟨_, covers.kept present, rfl⟩⟩

theorem startingAt (covers : Covers mask files later) (place : Location) :
    Covers mask (files.startingAt place) (later.startingAt place) :=
  ⟨rfl, covers.kept, covers.added⟩

section Additions

variable {directory : Location} {name : Bytes} (covers : Covers mask files later)
  (within : files.isDirectoryAt directory)
include covers within

theorem add_left (vacant : files.entryAt? (name :: directory) = none)
    (found : later.entryAt? (name :: directory) = some entry) :
    Covers mask (files.add directory name entry) later := by
  refine ⟨covers.current.trans (current_add ..).symm, fun {location old} present => ?_,
    fun {location new} absent present => ?_⟩
  · rw [entryAt?_add within vacant] at present
    split at present
    · next same => rw [same, found, present]
    · exact covers.kept present
  · rw [entryAt?_add within vacant] at absent
    split at absent
    · cases absent
    · exact covers.added absent present

theorem add (vacant : later.entryAt? (name :: directory) = none) (entry : Entry) :
    Covers mask (files.add directory name entry) (later.add directory name entry) := by
  have before : files.entryAt? (name :: directory) = none := by
    cases found : files.entryAt? (name :: directory) with
    | none => rfl
    | some old => rw [covers.kept found] at vacant; cases vacant
  have withinLater := covers.grows.isDirectoryAt within
  refine ⟨?_, fun {location old} present => ?_, fun {location new} absent present => ?_⟩
  · rw [current_add, current_add, covers.current]
  · rw [entryAt?_add within before] at present
    rw [entryAt?_add withinLater vacant]
    split at present
    · next same => rw [if_pos same, present]
    · next other => rw [if_neg other, covers.kept present]
  · rw [entryAt?_add within before] at absent
    rw [entryAt?_add withinLater vacant] at present
    split at absent
    · cases absent
    · next other =>
        rw [if_neg other] at present
        exact covers.added absent present

end Additions

/-- A step that one party would take by itself it can take in files with more directories.  What
this adds there is what it would add. -/
theorem ensureStepUnder (covers : Covers mask files shared)
    (done : files.ensureStepUnder mask path = .ok later) :
    ∃ next, shared.ensureStepUnder mask path = .ok next ∧ Covers mask later next ∧
      ∀ {location : Location} {entry : Entry}, shared.entryAt? location = none →
        next.entryAt? location = some entry → later.entryAt? location = some entry := by
  rcases ensureStepUnder_eq_ok done with ⟨taken, rfl⟩ | made
  · refine ⟨shared, ensureStepUnder_of_taken (covers.grows.taken taken), covers, ?_⟩
    exact fun absent present => by rw [absent] at present; cases present
  · obtain ⟨directory, name, placed, vacant, rfl⟩ := placedAt_of_makeDirectoryUnder made
    have placedShared := covers.grows.placedAt placed
    cases found : shared.entryAt? (name :: directory) with
    | some entry =>
        obtain rfl := covers.added vacant found
        have taken : shared.Taken path := taken_iff.2 (.inr ⟨_, _, _, placedShared, found⟩)
        refine ⟨shared, ensureStepUnder_of_taken taken,
          covers.add_left placed.isDirectoryAt vacant found, ?_⟩
        exact fun absent present => by rw [absent] at present; cases present
    | none =>
        have created := placedShared.makeDirectoryUnder_eq found mask
        refine ⟨_, ?_, covers.add placed.isDirectoryAt found _, ?_⟩
        · rw [FileSystem.ensureStepUnder, created]
        · intro location entry absent present
          rw [entryAt?_add placedShared.isDirectoryAt found] at present
          rw [entryAt?_add placed.isDirectoryAt vacant]
          split at present
          · next same => rw [if_pos same, present]
          · rw [absent] at present
            cases present

end Covers

theorem startingAt_of_current {place : Location} (current : files.current = place) :
    files.startingAt place = files := by
  rw [← current]
  rfl

/-- A party that creates a tree: where relative paths start for it, and the path of its tree. -/
structure Party where
  place : Location
  path : Path

def Party.alone (mask : Nat) (files : FileSystem) (party : Party) :
    FileSystem × Except SystemError Unit :=
  (files.startingAt party.place).ensureTreeUnder mask party.path

def Party.after (mask : Nat) (files : FileSystem) (party : Party) (steps : Nat) : FileSystem :=
  ((files.startingAt party.place).ensureStepsUnder mask ((treeSteps party.path).take steps)).1

theorem ensureStepsUnder_split {front back : List Path}
    (done : files.ensureStepsUnder mask (front ++ back) = (later, .ok ())) :
    ∃ middle, files.ensureStepsUnder mask front = (middle, .ok ()) ∧
      middle.ensureStepsUnder mask back = (later, .ok ()) := by
  induction front generalizing files with
  | nil => exact ⟨files, rfl, done⟩
  | cons path front ih =>
      rw [List.cons_append, ensureStepsUnder] at done
      rw [ensureStepsUnder]
      split at done
      · exact ih done
      · cases done

namespace Party

variable {party : Party} {steps : Nat} (succeeds : (party.alone mask files).2 = .ok ())
include succeeds

theorem split_alone (steps : Nat) :
    (files.startingAt party.place).ensureStepsUnder mask ((treeSteps party.path).take steps) =
        (party.after mask files steps, .ok ()) ∧
      (party.after mask files steps).ensureStepsUnder mask ((treeSteps party.path).drop steps) =
        ((party.alone mask files).1, .ok ()) := by
  have whole : (files.startingAt party.place).ensureStepsUnder mask
      ((treeSteps party.path).take steps ++ (treeSteps party.path).drop steps) =
        ((party.alone mask files).1, .ok ()) := by
    rw [List.take_append_drop]
    exact Prod.ext rfl succeeds
  obtain ⟨middle, first, second⟩ := ensureStepsUnder_split whole
  have same : party.after mask files steps = middle := congrArg Prod.fst first
  rw [same]
  exact ⟨first, second⟩

theorem ensureStepUnder_after (next : (treeSteps party.path).drop steps = path :: rest) :
    (party.after mask files steps).ensureStepUnder mask path =
      .ok (party.after mask files (steps + 1)) := by
  have longer : (treeSteps party.path).take (steps + 1) =
      (treeSteps party.path).take steps ++ [path] := by
    rw [List.take_add_one, ← List.head?_drop, next]
    rfl
  have done := (split_alone succeeds (steps + 1)).1
  rw [longer] at done
  obtain ⟨middle, first, second⟩ := ensureStepsUnder_split done
  have same : party.after mask files steps = middle := congrArg Prod.fst first
  rw [same]
  rw [ensureStepsUnder] at second
  split at second
  · next created => cases second; exact created
  · cases second

theorem covers_after (steps : Nat) :
    Covers mask (party.after mask files steps) (party.alone mask files).1 := by
  have adds := ensureStepsUnder_adds (party.after mask files steps) mask
    ((treeSteps party.path).drop steps)
  rw [(split_alone succeeds steps).2] at adds
  exact adds.covers

omit succeeds

theorem after_of_length_le (all : (treeSteps party.path).length ≤ steps) :
    party.after mask files steps = (party.alone mask files).1 := by
  rw [after, List.take_of_length_le all]
  rfl

end Party

/-- What a party has still to create, or why it has stopped. -/
inductive Progress where
  | ahead (paths : List Path)
  | failed (error : SystemError)

def Progress.result? : Progress → Option (Except SystemError Unit)
  | ahead [] => some (.ok ())
  | ahead (_ :: _) => none
  | failed error => some (.error error)

/-- The common files, and the progress of each party. -/
structure Race (ι : Type) where
  files : FileSystem
  progress : ι → Progress

namespace Race

variable {ι : Type} {parties : ι → Party} {race : Race ι} {party : ι} {count : ι → Nat}

def start (files : FileSystem) (parties : ι → Party) : Race ι :=
  ⟨files, fun party => .ahead (treeSteps (parties party).path)⟩

variable [DecidableEq ι]

/-- A party takes its next step.  A party that has ended does nothing. -/
def advance (mask : Nat) (parties : ι → Party) (race : Race ι) (party : ι) : Race ι :=
  match race.progress party with
  | .ahead (path :: rest) =>
      match (race.files.startingAt (parties party).place).ensureStepUnder mask path with
      | .ok later =>
          ⟨later.startingAt race.files.current,
            Function.update race.progress party (.ahead rest)⟩
      | .error error => ⟨race.files, Function.update race.progress party (.failed error)⟩
  | _ => race

theorem advance_of_ok (ahead : race.progress party = .ahead (path :: rest))
    (done : (race.files.startingAt (parties party).place).ensureStepUnder mask path = .ok later) :
    race.advance mask parties party =
      ⟨later.startingAt race.files.current,
        Function.update race.progress party (.ahead rest)⟩ := by
  simp [advance, ahead, done]

theorem advance_of_error {error : SystemError}
    (ahead : race.progress party = .ahead (path :: rest))
    (failed : (race.files.startingAt (parties party).place).ensureStepUnder mask path =
      .error error) :
    race.advance mask parties party =
      ⟨race.files, Function.update race.progress party (.failed error)⟩ := by
  simp [advance, ahead, failed]

theorem advance_of_ended {result : Except SystemError Unit}
    (ended : (race.progress party).result? = some result) :
    race.advance mask parties party = race := by
  unfold advance
  split
  · next ahead => rw [ahead] at ended; cases ended
  · rfl

def run (mask : Nat) (parties : ι → Party) (race : Race ι) (turns : List ι) : Race ι :=
  turns.foldl (advance mask parties) race

/-- All parties are ahead by some steps.  The files hold what each of them would have created by
itself, and whatever is new in them was created by one of them. -/
structure Reached (mask : Nat) (files : FileSystem) (parties : ι → Party) (count : ι → Nat)
    (race : Race ι) : Prop where
  progress : ∀ party,
    race.progress party = .ahead ((treeSteps (parties party).path).drop (count party))
  kept : Covers mask files race.files
  covers : ∀ party, Covers mask ((parties party).after mask files (count party))
    (race.files.startingAt (parties party).place)
  made : ∀ {location : Location} {entry : Entry}, files.entryAt? location = none →
    race.files.entryAt? location = some entry →
      ∃ party, ((parties party).after mask files (count party)).entryAt? location = some entry

omit [DecidableEq ι] in
theorem reached_start (mask : Nat) (files : FileSystem) (parties : ι → Party) :
    Reached mask files parties (fun _ => 0) (start files parties) where
  progress _ := rfl
  kept := .refl files
  covers party := .refl (files.startingAt (parties party).place)
  made absent present := by rw [start, absent] at present; cases present

section Steps

variable (succeed : ∀ party, ((parties party).alone mask files).2 = .ok ())
include succeed

omit succeed in
theorem Reached.advance_ended (reached : Reached mask files parties count race)
    (ended : (treeSteps (parties party).path).drop (count party) = []) :
    Reached mask files parties (Function.update count party (count party + 1))
      (race.advance mask parties party) := by
  have returned : (race.progress party).result? = some (.ok ()) := by
    rw [reached.progress party, ended]
    rfl
  have all := List.drop_eq_nil_iff.1 ended
  have same (other : ι) : (parties other).after mask files
      (Function.update count party (count party + 1) other) =
        (parties other).after mask files (count other) := by
    by_cases own : other = party
    · subst own
      rw [Function.update_self, Party.after_of_length_le all,
        Party.after_of_length_le (Nat.le_succ_of_le all)]
    · rw [Function.update_of_ne own]
  rw [advance_of_ended returned]
  refine ⟨fun other => ?_, reached.kept, fun other => ?_, fun absent present => ?_⟩
  · by_cases own : other = party
    · subst own
      rw [reached.progress, Function.update_self, ended,
        List.drop_eq_nil_iff.2 (Nat.le_succ_of_le all)]
    · rw [reached.progress, Function.update_of_ne own]
  · rw [same]
    exact reached.covers other
  · obtain ⟨other, created⟩ := reached.made absent present
    exact ⟨other, by rw [same]; exact created⟩

/-- The next step of a party succeeds, whatever the others have done. -/
theorem Reached.advance_ahead (reached : Reached mask files parties count race)
    (next : (treeSteps (parties party).path).drop (count party) = path :: rest) :
    Reached mask files parties (Function.update count party (count party + 1))
      (race.advance mask parties party) := by
  have alone := Party.ensureStepUnder_after (succeed party) next
  obtain ⟨later, done, covers, made⟩ := (reached.covers party).ensureStepUnder alone
  have advanced := advance_of_ok ((reached.progress party).trans (congrArg _ next)) done
  have more : Covers mask race.files (later.startingAt race.files.current) :=
    (adds_of_ensureStepUnder done).covers.startingAt race.files.current
  have current : later.current = (parties party).place := (adds_of_ensureStepUnder done).current
  rw [advanced]
  refine ⟨fun other => ?_, reached.kept.trans more, fun other => ?_, ?_⟩
  · dsimp only
    by_cases own : other = party
    · subst own
      rw [Function.update_self, Function.update_self, ← List.tail_drop, next]
      rfl
    · rw [Function.update_of_ne own, Function.update_of_ne own, reached.progress]
  · by_cases own : other = party
    · subst own
      rw [Function.update_self]
      exact (startingAt_of_current current).symm ▸ covers
    · rw [Function.update_of_ne own]
      exact (reached.covers other).trans (more.startingAt (parties other).place)
  · intro location entry absent present
    cases before : race.files.entryAt? location with
    | none =>
        refine ⟨party, ?_⟩
        rw [Function.update_self]
        exact made before present
    | some old =>
        cases Option.some.inj ((more.kept before).symm.trans present)
        obtain ⟨other, created⟩ := reached.made absent before
        refine ⟨other, ?_⟩
        by_cases own : other = party
        · subst own
          rw [Function.update_self]
          exact (adds_of_ensureStepUnder alone).kept created
        · rw [Function.update_of_ne own]
          exact created

theorem Reached.advance (reached : Reached mask files parties count race) (party : ι) :
    Reached mask files parties (Function.update count party (count party + 1))
      (race.advance mask parties party) := by
  cases next : (treeSteps (parties party).path).drop (count party) with
  | nil => exact reached.advance_ended next
  | cons path rest => exact reached.advance_ahead succeed next

theorem Reached.run (reached : Reached mask files parties count race) (turns : List ι) :
    Reached mask files parties (fun party => count party + turns.count party)
      (race.run mask parties turns) := by
  induction turns generalizing race count with
  | nil => exact reached
  | cons first turns ih =>
      have later := ih (reached.advance succeed first)
      have counts : (fun party => Function.update count first (count first + 1) party +
          turns.count party) = fun party => count party + (first :: turns).count party := by
        funext party
        rw [List.count_cons]
        by_cases same : first = party
        · subst same; simp; omega
        · simp [Function.update_of_ne (Ne.symm same), same]
      rw [counts] at later
      exact later

end Steps

theorem run_of_ended (mask : Nat) (parties : ι → Party) {result : Except SystemError Unit}
    (ended : (race.progress party).result? = some result) (turns : Nat) :
    race.run mask parties (List.replicate turns party) = race := by
  induction turns with
  | zero => rfl
  | succ turns ih =>
      rw [List.replicate_succ, run, List.foldl_cons, advance_of_ended ended]
      exact ih

theorem run_replicate (mask : Nat) (parties : ι → Party)
    (ahead : race.progress party = .ahead paths) :
    ∃ last later result, race.run mask parties (List.replicate paths.length party) = last ∧
      (race.files.startingAt (parties party).place).ensureStepsUnder mask paths = (later, result) ∧
      last.files = later.startingAt race.files.current ∧
      (last.progress party).result? = some result := by
  refine ⟨_, _, _, rfl, rfl, ?_⟩
  induction paths generalizing race with
  | nil =>
      refine ⟨rfl, ?_⟩
      rw [List.length_nil, List.replicate_zero, run, List.foldl_nil, ahead]
      rfl
  | cons path rest ih =>
      rw [List.length_cons, List.replicate_succ, run, List.foldl_cons, ensureStepsUnder]
      cases done : (race.files.startingAt (parties party).place).ensureStepUnder mask path with
      | error error =>
          have ended : ((race.advance mask parties party).progress party).result? =
              some (.error error) := by
            rw [advance_of_error ahead done]
            dsimp only
            rw [Function.update_self]
            rfl
          have stopped := run_of_ended mask parties ended rest.length
          rw [run] at stopped
          rw [stopped]
          exact ⟨by rw [advance_of_error ahead done]; rfl, ended⟩
      | ok later =>
          have current : later.current = (parties party).place :=
            (adds_of_ensureStepUnder done).current
          have next : (race.advance mask parties party).progress party = .ahead rest := by
            rw [advance_of_ok ahead done]
            exact Function.update_self ..
          have further := ih next
          rw [advance_of_ok ahead done] at further ⊢
          have same : (later.startingAt race.files.current).startingAt (parties party).place =
              later := startingAt_of_current current
          rw [same] at further
          exact further

/-- The turns of one party are the creation of its tree. -/
theorem run_alone (mask : Nat) (files : FileSystem) (parties : ι → Party) (party : ι) :
    ∃ last, (start files parties).run mask parties
        (List.replicate (treeSteps (parties party).path).length party) = last ∧
      last.files = ((parties party).alone mask files).1.startingAt files.current ∧
      (last.progress party).result? = some ((parties party).alone mask files).2 := by
  have ahead : (start files parties).progress party = .ahead (treeSteps (parties party).path) := rfl
  obtain ⟨last, later, result, ran, created, same, ended⟩ := run_replicate mask parties ahead
  refine ⟨last, ran, ?_⟩
  have alone : (parties party).alone mask files = (later, result) := created
  rw [alone]
  exact ⟨same, ended⟩

/-- Parties that would succeed by themselves take turns in any order.  None of them fails, and each
one succeeds as soon as it has had its turns.  What it would create by itself is there then, what
was there before is there as before, and nothing else is there.  The paths are texts, so that what
a party does by itself is what the creation of a tree does. -/
theorem run_succeeds
    (spelled : ∀ party, ∃ text, Text.decode? (parties party).path.bytes = some text)
    (succeed : ∀ party, ((parties party).alone mask files).2 = .ok ()) (turns : List ι) :
    ∃ last, (start files parties).run mask parties turns = last ∧
      (∀ party error, (last.progress party).result? ≠ some (.error error)) ∧
      (∀ party, (treeSteps (parties party).path).length ≤ turns.count party →
        (last.progress party).result? = some (.ok ()) ∧
        ∀ location entry, ((parties party).alone mask files).1.entryAt? location = some entry →
          last.files.entryAt? location = some entry) ∧
      (∀ location entry, files.entryAt? location = some entry →
        last.files.entryAt? location = some entry) ∧
      (∀ location entry, files.entryAt? location = none →
        last.files.entryAt? location = some entry →
          ∃ party, ((parties party).alone mask files).1.entryAt? location = some entry) ∧
      ∀ party, (files.startingAt (parties party).place).ensureTree (parties party).path =
        (parties party).alone usualMask files := by
  have reached := (reached_start mask files parties).run succeed turns
  simp only [Nat.zero_add] at reached
  refine ⟨_, rfl, ?_, ?_, fun _ _ => reached.kept.kept, ?_, ?_⟩
  · intro party error
    rw [reached.progress party]
    cases (treeSteps (parties party).path).drop (turns.count party) <;> simp [Progress.result?]
  · intro party all
    constructor
    · rw [reached.progress party, List.drop_eq_nil_iff.2 all]
      rfl
    · intro location entry present
      apply (reached.covers party).kept
      rw [Party.after_of_length_le all]
      exact present
  · intro location entry absent present
    obtain ⟨party, created⟩ := reached.made absent present
    exact ⟨party, (Party.covers_after (succeed party) (turns.count party)).kept created⟩
  · intro party
    obtain ⟨text, spelled⟩ := spelled party
    exact ensureTree_eq_ensureTreeUnder spelled

/-- Two parties with common directories: one goes by absolute paths, the other starts in `d`. -/
def twoParties : Bool → Party
  | false => ⟨[], .ofText "/d/x/../y/z"⟩
  | true => ⟨[Text.encode "d"], .ofText "x//w/../../y/z/e"⟩

def twoTurns : List Bool :=
  [true, false, false, true, false, true, true, false, true, false, true, true]

theorem two_parties_succeed :
    (∀ party, ∃ text, Text.decode? (twoParties party).path.bytes = some text) ∧
      (∀ party, ((twoParties party).alone 0o077 filesWithFile).2 = .ok ()) ∧
      ∃ last, (start filesWithFile twoParties).run 0o077 twoParties twoTurns = last ∧
        (∀ party, (last.progress party).result? = some (.ok ())) ∧
        last.files.entryAt? [Text.encode "e", Text.encode "z", Text.encode "y", Text.encode "d"] =
          some (.directory 0o700) := by
  have spelled : ∀ party, ∃ text, Text.decode? (twoParties party).path.bytes = some text := by
    intro party
    cases party with
    | false => exact ⟨"/d/x/../y/z", by decide +kernel⟩
    | true => exact ⟨"x//w/../../y/z/e", by decide +kernel⟩
  have succeed : ∀ party, ((twoParties party).alone 0o077 filesWithFile).2 = .ok () := by
    intro party
    cases party <;> cbv
  obtain ⟨last, ran, _, ended, _⟩ := run_succeeds spelled succeed twoTurns
  have all : ∀ party, (treeSteps (twoParties party).path).length ≤ twoTurns.count party := by
    intro party
    cases party <;> decide +kernel
  have created : ((twoParties true).alone 0o077 filesWithFile).1.entryAt?
      [Text.encode "e", Text.encode "z", Text.encode "y", Text.encode "d"] =
        some (.directory 0o700) := by cbv
  exact ⟨spelled, succeed, last, ran, fun party => (ended party (all party)).1,
    (ended true (all true)).2 _ _ created⟩

end Race

end HostHome.FileSystem
