import Mathlib
import HostHome.Text.Substring

/-!
# Places of a text in another one

A text stands in another one at each place where it begins, and its places may overlap.
The search divides a text at the first of them.
-/

namespace HostHome.Text

section Places

variable {α : Type} {needle text front back : List α} {item : α} {place : Nat}

/-- Some items stand in others, behind so many of them. -/
def StandsAt (needle text : List α) (place : Nat) : Prop :=
  ∃ front back, text = front ++ needle ++ back ∧ front.length = place

theorem standsAt_length (front needle back : List α) :
    StandsAt needle (front ++ needle ++ back) front.length :=
  ⟨front, back, rfl, rfl⟩

theorem StandsAt.add_length_le (stands : StandsAt needle text place) :
    place + needle.length ≤ text.length := by
  obtain ⟨front, back, rfl, rfl⟩ := stands
  simp

theorem standsAt_zero_iff : StandsAt needle text 0 ↔ ∃ back, text = needle ++ back := by
  constructor
  · rintro ⟨front, back, rfl, empty⟩
    exact ⟨back, by simp [List.length_eq_zero_iff.1 empty]⟩
  · rintro ⟨back, rfl⟩
    exact standsAt_length [] needle back

theorem standsAt_cons_succ_iff :
    StandsAt needle (item :: text) (place + 1) ↔ StandsAt needle text place := by
  constructor
  · rintro ⟨front, back, spelled, long⟩
    cases front with
    | nil => cases long
    | cons first front =>
        simp only [List.cons_append, List.cons.injEq] at spelled
        exact ⟨front, back, spelled.2, by simpa using long⟩
  · rintro ⟨front, back, rfl, rfl⟩
    exact standsAt_length (item :: front) needle back

theorem standsAt_append_iff :
    StandsAt needle (front ++ text) (front.length + place) ↔ StandsAt needle text place := by
  induction front with
  | nil => simp
  | cons item front ih =>
      rw [List.length_cons, List.cons_append, Nat.add_right_comm, standsAt_cons_succ_iff, ih]

theorem StandsAt.append (stands : StandsAt needle text place) (back : List α) :
    StandsAt needle (text ++ back) place := by
  obtain ⟨front, between, rfl, rfl⟩ := stands
  simpa using standsAt_length front needle (between ++ back)

theorem StandsAt.of_append (stands : StandsAt needle (text ++ back) place)
    (fits : place + needle.length ≤ text.length) : StandsAt needle text place := by
  obtain ⟨front, behind, spelled, rfl⟩ := stands
  obtain ⟨between, rfl⟩ : ∃ between, text = front ++ needle ++ between := by
    have start : front ++ needle <+: text ++ back := spelled ▸ List.prefix_append _ _
    obtain ⟨between, joined⟩ :=
      List.prefix_of_prefix_length_le start (List.prefix_append text back) (by simpa using fits)
    exact ⟨between, joined.symm⟩
  exact standsAt_length front needle between

/-- The first place in a text is told by the text up to the end of the place. -/
theorem isLeast_standsAt_append_iff :
    IsLeast {place | StandsAt needle (front ++ needle ++ back) place} front.length ↔
      IsLeast {place | StandsAt needle (front ++ needle) place} front.length := by
  constructor
  · intro least
    refine ⟨by simpa using standsAt_length front needle [], ?_⟩
    intro place stands
    exact least.2 (stands.append back)
  · intro least
    refine ⟨standsAt_length front needle back, ?_⟩
    intro place stands
    by_contra before
    have fits : place + needle.length ≤ (front ++ needle).length := by
      rw [List.length_append]
      omega
    exact before (least.2 (stands.of_append fits))

/-- Places at which some items stand in others, none of them over another one. -/
structure SeparatePlaces (needle text : List α) (places : Set ℕ) : Prop where
  stands : ∀ place ∈ places, StandsAt needle text place
  disjoint : places.PairwiseDisjoint fun place => Set.Ico place (place + needle.length)

variable {places : Set ℕ} {other : ℕ}

theorem SeparatePlaces.of_lt (stands : ∀ place ∈ places, StandsAt needle text place)
    (apart : ∀ place ∈ places, ∀ other ∈ places, place < other →
      place + needle.length ≤ other) : SeparatePlaces needle text places := by
  refine ⟨stands, ?_⟩
  intro place member other within different
  simp only [Function.onFun, Set.Ico_disjoint_Ico]
  have before := apart place member other within
  have after := apart other within place member
  omega

theorem SeparatePlaces.add_length_le (separate : SeparatePlaces needle text places)
    (nonempty : needle ≠ []) (member : place ∈ places) (within : other ∈ places)
    (before : place < other) : place + needle.length ≤ other := by
  have long : 0 < needle.length := List.length_pos_iff.2 nonempty
  have apart := separate.disjoint member within before.ne
  simp only [Function.onFun, Set.Ico_disjoint_Ico] at apart
  omega

theorem SeparatePlaces.behind (separate : SeparatePlaces needle (front ++ text) places)
    (nonempty : needle ≠ []) :
    SeparatePlaces needle text {place | front.length + place ∈ places} := by
  refine .of_lt ?_ ?_
  · intro place member
    exact standsAt_append_iff.1 (separate.stands _ member)
  · intro place member other within before
    have apart := separate.add_length_le nonempty member within (Nat.add_lt_add_left before _)
    omega

/-- Of the places that begin before the end of the first one, there is only one. -/
theorem SeparatePlaces.encard_inter_Iio_le_one (separate : SeparatePlaces needle text places)
    (nonempty : needle ≠ []) (first : ∀ place ∈ places, other ≤ place) :
    (places ∩ Set.Iio (other + needle.length)).encard ≤ 1 := by
  rw [Set.encard_le_one_iff]
  rintro place next ⟨member, early⟩ ⟨within, soon⟩
  rw [Set.mem_Iio] at early soon
  have least := first place member
  have leastNext := first next within
  rcases lt_trichotomy place next with before | same | after
  · have apart := separate.add_length_le nonempty member within before
    omega
  · exact same
  · have apart := separate.add_length_le nonempty within member after
    omega

/-- There is at most one place more than there are behind the end of the first one. -/
theorem SeparatePlaces.encard_le_add_one
    (separate : SeparatePlaces needle (front ++ needle ++ back) places)
    (nonempty : needle ≠ []) (first : ∀ place ∈ places, front.length ≤ place) :
    places.encard ≤ {place | (front ++ needle).length + place ∈ places}.encard + 1 := by
  have covered : places ⊆
      ((front ++ needle).length + ·) '' {place | (front ++ needle).length + place ∈ places} ∪
        places ∩ Set.Iio (front.length + needle.length) := by
    intro place member
    by_cases early : place < front.length + needle.length
    · exact Or.inr ⟨member, early⟩
    · have again : (front ++ needle).length + (place - (front ++ needle).length) = place := by
        rw [List.length_append]
        omega
      exact Or.inl ⟨_, by simpa only [Set.mem_ofPred_eq, again] using member, again⟩
  refine ((Set.encard_le_encard covered).trans (Set.encard_union_le _ _)).trans ?_
  rw [(add_right_injective _).encard_image]
  exact add_le_add_right (separate.encard_inter_Iio_le_one nonempty first) _

theorem SeparatePlaces.insert (separate : SeparatePlaces needle back places)
    (nonempty : needle ≠ []) (front : List α) :
    SeparatePlaces needle (front ++ needle ++ back)
      (insert front.length (((front ++ needle).length + ·) '' places)) := by
  refine .of_lt ?_ ?_
  · rintro place (rfl | ⟨place, member, rfl⟩)
    · exact standsAt_length front needle back
    · exact standsAt_append_iff.2 (separate.stands place member)
  · intro place member other within before
    simp only [Set.mem_insert_iff, Set.mem_image, List.length_append] at member within
    rcases member with rfl | ⟨inner, member, rfl⟩
    · rcases within with rfl | ⟨next, within, rfl⟩ <;> omega
    · rcases within with rfl | ⟨next, within, rfl⟩
      · omega
      · have apart := separate.add_length_le nonempty member within
          (Nat.lt_of_add_lt_add_left before)
        omega

end Places

variable {needle text before behind : List Char}

theorem stripStart?_eq_some_iff {start rest : List Char} :
    stripStart? start text = some rest ↔ text = start ++ rest := by
  fun_induction stripStart? start text with
  | case1 text => simp [eq_comm]
  | case2 => simp
  | case3 start c text ih => simp [ih]
  | case4 expected start c text other => simp [Ne.symm other]

theorem stripStart?_eq_none_iff : stripStart? needle text = none ↔ ¬ StandsAt needle text 0 := by
  rw [standsAt_zero_iff, not_exists, Option.eq_none_iff_forall_ne_some]
  exact forall_congr' fun rest => not_congr stripStart?_eq_some_iff

theorem splitFirst?_eq_none_iff (nonempty : needle ≠ []) :
    splitFirst? needle text = none ↔ ∀ place, ¬ StandsAt needle text place := by
  induction text with
  | nil =>
      have long : 0 < needle.length := List.length_pos_iff.2 nonempty
      refine iff_of_true rfl ?_
      intro place stands
      have fits : place + needle.length ≤ 0 := stands.add_length_le
      omega
  | cons c text ih =>
      unfold splitFirst?
      cases stripped : stripStart? needle (c :: text) with
      | some rest =>
          refine iff_of_false (by simp) ?_
          intro absent
          exact absent 0 (standsAt_zero_iff.2 ⟨rest, stripStart?_eq_some_iff.1 stripped⟩)
      | none =>
          have first : ¬ StandsAt needle (c :: text) 0 := stripStart?_eq_none_iff.1 stripped
          simp only [Option.map_eq_none_iff, ih]
          constructor
          · intro absent place
            cases place with
            | zero => exact first
            | succ place => exact mt standsAt_cons_succ_iff.1 (absent place)
          · intro absent place
            exact mt standsAt_cons_succ_iff.2 (absent (place + 1))

theorem isLeast_of_splitFirst?
    (split : splitFirst? needle text = some (before, behind)) :
    text = before ++ needle ++ behind ∧
      IsLeast {place | StandsAt needle text place} before.length := by
  induction text generalizing before with
  | nil => cases split
  | cons c text ih =>
      unfold splitFirst? at split
      cases stripped : stripStart? needle (c :: text) with
      | some rest =>
          rw [stripped] at split
          cases split
          have spelled : c :: text = needle ++ behind := stripStart?_eq_some_iff.1 stripped
          refine ⟨spelled, standsAt_zero_iff.2 ⟨behind, spelled⟩, ?_⟩
          intro place _
          exact Nat.zero_le place
      | none =>
          rw [stripped] at split
          obtain ⟨⟨inner, rest⟩, innerSplit, same⟩ := Option.map_eq_some_iff.1 split
          cases same
          obtain ⟨rfl, least⟩ := ih innerSplit
          refine ⟨rfl, standsAt_length (c :: inner) needle behind, ?_⟩
          intro place stands
          cases place with
          | zero => exact absurd stands (stripStart?_eq_none_iff.1 stripped)
          | succ place => exact Nat.succ_le_succ (least.2 (standsAt_cons_succ_iff.1 stands))

theorem splitFirst?_eq_some_iff (nonempty : needle ≠ []) :
    splitFirst? needle text = some (before, behind) ↔
      text = before ++ needle ++ behind ∧
        IsLeast {place | StandsAt needle (before ++ needle) place} before.length := by
  constructor
  · intro split
    obtain ⟨rfl, least⟩ := isLeast_of_splitFirst? split
    exact ⟨rfl, isLeast_standsAt_append_iff.1 least⟩
  · rintro ⟨rfl, least⟩
    have found : splitFirst? needle (before ++ needle ++ behind) ≠ none := by
      rw [Ne, splitFirst?_eq_none_iff nonempty]
      intro absent
      exact absent before.length (standsAt_length before needle behind)
    obtain ⟨⟨front, back⟩, split⟩ := Option.ne_none_iff_exists'.1 found
    obtain ⟨spelled, first⟩ := isLeast_of_splitFirst? split
    have long : before.length = front.length :=
      (isLeast_standsAt_append_iff.2 least).unique first
    rw [List.append_assoc, List.append_assoc] at spelled
    obtain ⟨rfl, rest⟩ := List.append_inj spelled long
    rw [split, List.append_cancel_left rest]

end HostHome.Text
