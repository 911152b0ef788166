import HostHome.Proofs.FileSystem.LinkCreation

/-!
# Links that are created at the same time

Several calls make sure of one link and take turns in any order.  A call looks in one
step whether the place is free, and creates the link in another.  The link is created
once, by the first call that has looked and is back.  Calls that look afterwards find
it.  But those that had looked before that and come back later find their place
occupied, and they fail although the link is what they asked for.
-/

namespace HostHome.Link

open HostHome.FileSystem
open HostHome.Text (Bytes)

variable {files later : FileSystem} {link : Link}

/-- How far a call has come. -/
inductive Attempt where
  /-- It has not looked yet. -/
  | ahead
  /-- It has found the place free. -/
  | free
  /-- It has returned. -/
  | returned (answer : Except Cause LinkChange)

def Attempt.ofState : LinkState → Attempt
  | .missing => free
  | .correct => returned (.ok .alreadyCorrect)
  | .occupied occupant => returned (.ok (.skipped occupant))

def Attempt.Succeeds (attempt : Attempt) : Prop :=
  attempt = returned (.ok .applied) ∨ attempt = returned (.ok .alreadyCorrect)

/-- The common files, and how far each call has come. -/
structure Contest (ι : Type) where
  files : FileSystem
  attempt : ι → Attempt

namespace Contest

variable {ι : Type}

def start (files : FileSystem) : Contest ι := ⟨files, fun _ => .ahead⟩

variable [DecidableEq ι]

/-- A call takes its next step: it looks, or it creates the link.  A call that has returned does
nothing. -/
def advance (link : Link) (contest : Contest ι) (call : ι) : Contest ι :=
  match contest.attempt call with
  | .ahead =>
      ⟨contest.files,
        Function.update contest.attempt call (.ofState (link.state contest.files))⟩
  | .free =>
      match link.apply contest.files with
      | .ok later => ⟨later, Function.update contest.attempt call (.returned (.ok .applied))⟩
      | .error cause =>
          ⟨contest.files, Function.update contest.attempt call (.returned (.error cause))⟩
  | .returned _ => contest

def run (link : Link) (contest : Contest ι) (turns : List ι) : Contest ι :=
  turns.foldl (advance link) contest

variable {contest : Contest ι} {call creator : ι} {turns looked front rest : List ι}

theorem run_append (contest : Contest ι) (first second : List ι) :
    contest.run link (first ++ second) = (contest.run link first).run link second :=
  List.foldl_append

theorem run_cons (contest : Contest ι) (first : ι) (turns : List ι) :
    contest.run link (first :: turns) = (contest.advance link first).run link turns := rfl

/-- The two turns of a call that is by itself are the request. -/
theorem run_alone (files : FileSystem) (link : Link) (call : ι) :
    ∃ last, (start files : Contest ι).run link [call, call] = last ∧
      last.files = link.filesAfter files ∧
      last.attempt call = .returned (link.answer files) := by
  refine ⟨_, rfl, ?_⟩
  cases found : link.state files with
  | missing =>
      cases applied : link.apply files <;>
        simp [run, start, advance, Attempt.ofState, found, applied, filesAfter, answer, ensure,
          bind, Except.bind, pure, Except.pure, Except.map]
  | correct =>
      simp [run, start, advance, Attempt.ofState, found, filesAfter, answer, ensure, Except.map]
  | occupied occupant =>
      simp [run, start, advance, Attempt.ofState, found, filesAfter, answer, ensure, Except.map]

/-- Some calls have found the place free, and nobody else has done anything. -/
structure Looking (files : FileSystem) (looked : List ι) (contest : Contest ι) : Prop where
  files_eq : contest.files = files
  attempt_eq : ∀ call, contest.attempt call = if call ∈ looked then .free else .ahead

theorem looking_start (files : FileSystem) : Looking files [] (start files : Contest ι) :=
  ⟨rfl, fun _ => by simp [start]⟩

theorem Looking.advance (looking : Looking files looked contest) (new : call ∉ looked)
    (missing : link.state files = .missing) :
    Looking files (looked ++ [call]) (contest.advance link call) := by
  have ahead : contest.attempt call = .ahead := by rw [looking.attempt_eq, if_neg new]
  refine ⟨by simp [Contest.advance, ahead, looking.files_eq], fun other => ?_⟩
  simp only [Contest.advance, ahead, looking.files_eq, missing, Attempt.ofState]
  by_cases own : other = call
  · simp [own]
  · simp [own, looking.attempt_eq]

theorem Looking.run (looking : Looking files looked contest)
    (missing : link.state files = .missing) (once : (looked ++ turns).Nodup) :
    Looking files (looked ++ turns) (contest.run link turns) := by
  induction turns generalizing looked contest with
  | nil => simpa [Contest.run] using looking
  | cons first turns ih =>
      have new : first ∉ looked := by
        intro member
        exact (List.nodup_append.1 once).2.2 first member first (by simp) rfl
      have further := ih (looking.advance new missing) (by simpa using once)
      rw [run_cons]
      simpa using further

/-- What a call returns: the creator has created the link, those that had looked before find the
place occupied, and the others find the link. -/
def answerFor (link : Link) (front : List ι) (creator call : ι) : Except Cause LinkChange :=
  if call = creator then .ok .applied
  else if call ∈ front then .error (link.failure .occupied)
  else .ok .alreadyCorrect

/-- The link was created, and some calls have taken turns since. -/
structure Created (link : Link) (later : FileSystem) (front : List ι) (creator : ι)
    (since : List ι) (contest : Contest ι) : Prop where
  files_eq : contest.files = later
  attempt_eq : ∀ call, contest.attempt call =
    if call = creator ∨ call ∈ since then .returned (answerFor link front creator call)
    else if call ∈ front then .free
    else .ahead

theorem Looking.created (looking : Looking files front contest) (member : creator ∈ front)
    (applied : link.apply files = .ok later) :
    Created link later front creator [] (contest.advance link creator) := by
  have free : contest.attempt creator = .free := by rw [looking.attempt_eq, if_pos member]
  refine ⟨by simp [Contest.advance, free, looking.files_eq, applied], fun other => ?_⟩
  simp only [Contest.advance, free, looking.files_eq, applied]
  by_cases own : other = creator
  · simp [own, answerFor]
  · simp [own, looking.attempt_eq]

/-- After its creation the link is found, and it cannot be created again. -/
theorem Created.advance {since : List ι} (created : Created link later front creator since contest)
    (correct : link.state later = .correct)
    (occupied : link.apply later = .error (link.failure .occupied)) (call : ι) :
    Created link later front creator (since ++ [call]) (contest.advance link call) := by
  by_cases done : call = creator ∨ call ∈ since
  · have returned := created.attempt_eq call
    rw [if_pos done] at returned
    have same : contest.advance link call = contest := by simp [Contest.advance, returned]
    rw [same]
    refine ⟨created.files_eq, fun other => ?_⟩
    rw [created.attempt_eq]
    by_cases own : other = call
    · subst own
      rw [if_pos done, if_pos (done.imp_right fun member => by simp [member])]
    · simp [own]
  · obtain ⟨notCreator, notSince⟩ := not_or.1 done
    have attempt := created.attempt_eq call
    rw [if_neg done] at attempt
    by_cases member : call ∈ front
    · rw [if_pos member] at attempt
      refine ⟨by simp [Contest.advance, attempt, created.files_eq, occupied], fun other => ?_⟩
      simp only [Contest.advance, attempt, created.files_eq, occupied]
      by_cases own : other = call
      · simp [own, answerFor, notCreator, member]
      · simp [own, created.attempt_eq]
    · rw [if_neg member] at attempt
      refine ⟨by simp [Contest.advance, attempt, created.files_eq], fun other => ?_⟩
      simp only [Contest.advance, attempt, created.files_eq, correct, Attempt.ofState]
      by_cases own : other = call
      · simp [own, answerFor, notCreator, member]
      · simp [own, created.attempt_eq]

theorem Created.run {since : List ι} (created : Created link later front creator since contest)
    (correct : link.state later = .correct)
    (occupied : link.apply later = .error (link.failure .occupied)) (turns : List ι) :
    Created link later front creator (since ++ turns) (contest.run link turns) := by
  induction turns generalizing since contest with
  | nil => simpa [Contest.run] using created
  | cons first turns ih =>
      have further := ih (created.advance correct occupied first)
      rw [run_cons]
      simpa using further

/-- Where somebody has a second turn, somebody is the first to have one. -/
theorem exists_second_turn (again : ¬ turns.Nodup) :
    ∃ front creator rest, turns = front ++ creator :: rest ∧ front.Nodup ∧ creator ∈ front := by
  induction turns using List.reverseRecOn with
  | nil => exact absurd List.nodup_nil again
  | append_singleton turns last ih =>
      by_cases once : turns.Nodup
      · refine ⟨turns, last, [], rfl, once, ?_⟩
        by_contra absent
        refine again (List.nodup_append.2 ⟨once, List.nodup_singleton last, ?_⟩)
        rintro call member other single rfl
        exact absent (List.mem_singleton.1 single ▸ member)
      · obtain ⟨front, creator, rest, rfl, nodup, member⟩ := ih once
        exact ⟨front, creator, rest ++ [last], by simp, nodup, member⟩

/-- The first call that has a second turn creates the link. -/
theorem created_of_run (alone : link.ensure files = .ok (.applied, later)) (once : front.Nodup)
    (member : creator ∈ front) (rest : List ι) :
    Created link later front creator rest
      ((start files).run link (front ++ creator :: rest)) := by
  have applied := ensure_eq_applied_iff.1 alone
  have looking := (looking_start files).run (state_eq_missing_of_apply applied)
    (show ([] ++ front).Nodup from once)
  have created := looking.created member applied
  rw [run_append, run_cons]
  exact created.run (state_eq_correct_of_apply applied) (apply_of_created applied) rest

/-- A call with two turns has one at the creation or behind it. -/
theorem eq_creator_or_mem (once : front.Nodup)
    (twice : 2 ≤ (front ++ creator :: rest).count call) : call = creator ∨ call ∈ rest := by
  by_contra absent
  obtain ⟨other, notSince⟩ := not_or.1 absent
  have atMost := List.nodup_iff_count_le_one.1 once call
  rw [List.count_append, List.count_cons, List.count_eq_zero_of_not_mem notSince] at twice
  simp [Ne.symm other] at twice
  omega

theorem succeeds_answerFor_iff :
    (Attempt.returned (answerFor link front creator call)).Succeeds ↔
      call ∈ front → call = creator := by
  unfold answerFor Attempt.Succeeds
  by_cases own : call = creator
  · simp [own]
  · by_cases member : call ∈ front <;> simp [own, member]

theorem answerFor_eq_applied_iff :
    answerFor link front creator call = .ok .applied ↔ call = creator := by
  unfold answerFor
  by_cases own : call = creator
  · simp [own]
  · by_cases member : call ∈ front <;> simp [own, member]

theorem answerFor_eq_error_of_not_succeeds
    (fails : ¬ (Attempt.returned (answerFor link front creator call)).Succeeds) :
    answerFor link front creator call = .error (link.failure .occupied) := by
  rw [succeeds_answerFor_iff] at fails
  obtain ⟨looked, other⟩ := Classical.not_imp.1 fails
  rw [answerFor, if_neg other, if_pos looked]

omit [DecidableEq ι] in
/-- Those that had looked before the creation are only the creator exactly if the creator has the
first two turns. -/
theorem forall_mem_eq_iff (once : front.Nodup) (member : creator ∈ front) :
    (∀ call, call ∈ front → call = creator) ↔
      ∃ call more, front ++ creator :: rest = call :: call :: more := by
  constructor
  · intro single
    have repeated := List.eq_replicate_of_mem single
    rw [repeated] at once member ⊢
    have length : front.length = 1 := by
      have atMost := List.nodup_replicate.1 once
      have some := List.length_pos_of_mem member
      rw [List.length_replicate] at some
      omega
    exact ⟨creator, rest, by rw [length]; rfl⟩
  · rintro ⟨call, more, spelled⟩
    cases front with
    | nil => cases member
    | cons first others =>
        cases others with
        | nil =>
            intro other only
            rw [List.mem_singleton.1 only, List.mem_singleton.1 member]
        | cons second others =>
            simp only [List.cons_append, List.cons.injEq] at spelled
            obtain ⟨rfl, rfl, _⟩ := spelled
            simp at once

/-- Calls that would create a link by themselves take turns in any order, until all have returned.
All of them succeed exactly if the first one is not disturbed: it has two turns before anybody else
has one.  In any case the link is created, by one call, and it is correct.  A call that fails does so
because its place is occupied.  The two turns of a call that is by itself are the request. -/
theorem succeed_iff_undisturbed [Nonempty ι]
    (alone : link.ensure files = .ok (.applied, later))
    (twice : ∀ call, 2 ≤ turns.count call) :
    ∃ last : Contest ι, (start files).run link turns = last ∧
      ((∀ call, (last.attempt call).Succeeds) ↔ ∃ call rest, turns = call :: call :: rest) ∧
      last.files = later ∧ link.state last.files = .correct ∧
      (∃! call, last.attempt call = .returned (.ok .applied)) ∧
      (∀ call, (last.attempt call).Succeeds ∨
        last.attempt call = .returned (.error (link.failure .occupied))) ∧
      ∀ call : ι, ∃ single, (start files).run link [call, call] = single ∧
        single.files = link.filesAfter files ∧
        single.attempt call = .returned (link.answer files) := by
  have again : ¬ turns.Nodup := by
    intro once
    obtain ⟨call⟩ := ‹Nonempty ι›
    have atMost := List.nodup_iff_count_le_one.1 once call
    have atLeast := twice call
    omega
  obtain ⟨front, creator, rest, rfl, once, member⟩ := exists_second_turn again
  have created := created_of_run alone once member rest
  have answers (call : ι) : ((start files).run link (front ++ creator :: rest)).attempt call =
      .returned (answerFor link front creator call) := by
    rw [created.attempt_eq, if_pos (eq_creator_or_mem once (twice call))]
  refine ⟨_, rfl, ?_, created.files_eq, ?_, ?_, ?_, run_alone files link⟩
  · rw [← forall_mem_eq_iff once member]
    exact forall_congr' fun call => by rw [answers, succeeds_answerFor_iff]
  · rw [created.files_eq]
    exact state_eq_correct_of_apply (ensure_eq_applied_iff.1 alone)
  · refine ⟨creator, by simp [answers, answerFor_eq_applied_iff], fun call applied => ?_⟩
    have answer := (answers call).symm.trans applied
    exact answerFor_eq_applied_iff.1 (Attempt.returned.inj answer)
  · intro call
    rw [answers]
    exact (Classical.em _).imp_right fun fails =>
      congrArg Attempt.returned (answerFor_eq_error_of_not_succeeds fails)

def sharedLink : Link := ⟨.symbolic, .ofText "/", .ofText "/top"⟩

theorem two_calls_succeed :
    let last := (start .empty : Contest Bool).run sharedLink [true, true, false, false]
    sharedLink.answer .empty = .ok .applied ∧ (∀ call, (last.attempt call).Succeeds) ∧
      last.files = sharedLink.filesAfter .empty := by
  have answered : sharedLink.answer .empty = .ok .applied := by cbv
  have alone := ensure_eq_ok_iff.2 ⟨answered, rfl⟩
  have twice : ∀ call, 2 ≤ [true, true, false, false].count call := by decide
  obtain ⟨last, rfl, undisturbed, same, _⟩ := succeed_iff_undisturbed alone twice
  exact ⟨answered, undisturbed.2 ⟨true, _, rfl⟩, same⟩

/-- Two calls may both look before one of them creates the link, and then the other one fails. -/
theorem not_both_succeed :
    ¬ ∀ (files later : FileSystem) (link : Link) (turns : List Bool),
      link.ensure files = .ok (.applied, later) → (∀ call, 2 ≤ turns.count call) →
        ∀ call, (((start files).run link turns).attempt call).Succeeds := by
  intro succeed
  have answered : sharedLink.answer .empty = .ok .applied := by cbv
  have alone := ensure_eq_ok_iff.2 ⟨answered, rfl⟩
  have twice : ∀ call, 2 ≤ ([true, false] ++ true :: [false]).count call := by decide
  have created := created_of_run alone (show [true, false].Nodup by decide)
    (show true ∈ [true, false] by decide) [false]
  have late := succeed .empty _ sharedLink _ alone twice false
  rw [created.attempt_eq, if_pos (by decide)] at late
  cases succeeds_answerFor_iff.1 late (by decide)

end Contest

end HostHome.Link
