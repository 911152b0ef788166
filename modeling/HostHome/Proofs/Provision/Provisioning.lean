import HostHome.Provision.Provisioning
import HostHome.Proofs.Provision.Contexts
import HostHome.Proofs.Provision.Tasks

/-!
# The ways of a run

A run is refused at a nested home, passes through where the homes are one, and
executes all steps elsewhere.  In the first two cases nothing changes.  In the third
one the run comes from one step to the next, up to the first that fails.
-/

namespace HostHome.Provision

variable {context : Context} {world after : World} {outcome : Outcome}

theorem provision_of_isNested (nested : isNested context world.files) :
    provision context world =
      .error (.failure ⟨.nested context.layout.nestedMarker, []⟩) world := by
  unfold provision
  rw [Run.files_bind, if_pos nested]
  rfl

theorem provision_eq_of_isPassThrough (single : isNested context world.files = false)
    (passes : isPassThrough world.files context.layout) :
    ∃ events, provision context world = .ok ⟨context.layout.hostHome, false⟩
      { world with events } := by
  unfold provision
  rw [Run.files_bind, if_neg (by simp [single]), Run.files_bind, if_pos passes]
  exact ⟨_, rfl⟩

theorem provision_of_isPassThrough (single : isNested context world.files = false)
    (passes : isPassThrough world.files context.layout) :
    ∃ after, provision context world = .ok ⟨context.layout.hostHome, false⟩ after ∧
      Quiet world after := by
  obtain ⟨events, passed⟩ := provision_eq_of_isPassThrough single passes
  exact ⟨_, passed, rfl, rfl, [], by simp, by simp⟩

theorem provision_of_executeAll (single : isNested context world.files = false)
    (apart : isPassThrough world.files context.layout = false) :
    provision context world = (do
      executeAll context steps
      return ⟨context.layout.hostHome, context.script⟩ : Run Outcome) world := by
  unfold provision
  rw [Run.files_bind, if_neg (by simp [single]), Run.files_bind, if_neg (by simp [apart])]

theorem worldAfter_provision_of_executeAll (single : isNested context world.files = false)
    (apart : isPassThrough world.files context.layout = false) :
    (provision context).worldAfter world = (executeAll context steps).worldAfter world := by
  unfold Run.worldAfter
  rw [provision_of_executeAll single apart]
  simp only [bind, EStateM.bind]
  cases executeAll context steps world <;> rfl

/-- A run executes all steps, or it only reports. -/
theorem worldAfter_provision (context : Context) (world : World) :
    (isNested context world.files = false ∧ isPassThrough world.files context.layout = false) ∨
      ∃ events, (provision context).worldAfter world = { world with events } := by
  cases nested : isNested context world.files with
  | true => exact .inr ⟨world.events, by rw [Run.worldAfter, provision_of_isNested nested]⟩
  | false =>
      cases passes : isPassThrough world.files context.layout with
      | true =>
          obtain ⟨events, passed⟩ := provision_eq_of_isPassThrough nested passes
          exact .inr ⟨events, by rw [Run.worldAfter, passed]⟩
      | false => exact .inl ⟨rfl, rfl⟩

theorem provision_of_ok (single : isNested context world.files = false)
    (apart : isPassThrough world.files context.layout = false)
    (executed : executeAll context steps world = .ok () after) :
    provision context world = .ok ⟨context.layout.hostHome, context.script⟩ after := by
  rw [provision_of_executeAll single apart]
  simp only [bind, EStateM.bind, executed]
  rfl

/-- A run that is neither refused nor passes through has come to the moment at which some steps are
done and another one is next. -/
structure Reaches (context : Context) (world : World) (done : List Task) (next : Task)
    (moment : World) : Prop where
  single : isNested context world.files = false
  apart : isPassThrough world.files context.layout = false
  ahead : ∃ rest, steps = done ++ next :: rest
  executed : executeAll context done world = .ok () moment

theorem Reaches.worldAfter_eq {done rest : List Task} {next : Task} {moment : World}
    (reaches : Reaches context world done next moment) (ahead : steps = done ++ next :: rest) :
    (provision context).worldAfter world =
      (executeAll context (next :: rest)).worldAfter moment := by
  rw [worldAfter_provision_of_executeAll reaches.single reaches.apart, ahead]
  simp only [Run.worldAfter, executeAll_append_of_ok reaches.executed]

theorem Reaches.before {done : List Task} {task next : Task} {moment : World}
    (reaches : Reaches context world (done ++ [task]) next moment) :
    ∃ begun, Reaches context world done task begun ∧
      task.execute context begun = .ok () moment := by
  obtain ⟨rest, ahead⟩ := reaches.ahead
  have executed := reaches.executed
  rw [executeAll_append] at executed
  obtain ⟨_, begun, first, second⟩ := bind_eq_ok executed
  obtain ⟨last, second, ended⟩ := executeAll_cons_eq_ok second
  cases ended
  exact ⟨begun, ⟨reaches.single, reaches.apart, ⟨next :: rest, by simpa using ahead⟩, first⟩,
    second⟩

/-- A run that leads to an outcome was not refused: it passed through, or it executed all steps. -/
theorem provision_eq_ok (provisioned : provision context world = .ok outcome after) :
    isNested context world.files = false ∧
      ((isPassThrough world.files context.layout ∧ outcome = ⟨context.layout.hostHome, false⟩ ∧
          after.files = world.files) ∨
        (isPassThrough world.files context.layout = false ∧
          outcome = ⟨context.layout.hostHome, context.script⟩ ∧
          executeAll context steps world = .ok () after)) := by
  cases nested : isNested context world.files with
  | true =>
      rw [provision_of_isNested nested] at provisioned
      cases provisioned
  | false =>
      refine ⟨rfl, ?_⟩
      cases passes : isPassThrough world.files context.layout with
      | true =>
          obtain ⟨middle, passed, quiet⟩ := provision_of_isPassThrough nested passes
          rw [passed] at provisioned
          cases provisioned
          exact .inl ⟨rfl, rfl, quiet.files⟩
      | false =>
          rw [provision_of_executeAll nested passes] at provisioned
          obtain ⟨_, middle, executed, returned⟩ := bind_eq_ok provisioned
          cases returned
          exact .inr ⟨rfl, rfl, executed⟩

/-- In an empty home a run succeeds, and it does not mark the shared home. -/
theorem exists_provision_homeContext :
    ∃ outcome later, provision homeContext { files := homeFiles } = .ok outcome later ∧
      later.files.hasEntry homeContext.layout.nestedMarker = false := by
  have checked : (match provision homeContext { files := homeFiles } with
      | .ok _ later => !later.files.hasEntry homeContext.layout.nestedMarker
      | .error _ _ => false) = true := by cbv
  split at checked
  · next outcome later provisioned => exact ⟨outcome, later, provisioned, by simpa using checked⟩
  · cases checked

end HostHome.Provision
