import Mathlib.Data.List.Forall2

/-!
Outcomes of steps that can fail: what the outcome of a sequence says about its steps.
-/

namespace Backoffice.Outcome

variable {Fault Value Other : Type}

/-! ### Success -/

theorem bind_eq_ok_iff {first : Except Fault Value} {next : Value → Except Fault Other}
    {result : Other} :
    (first >>= next) = .ok result ↔ ∃ value, first = .ok value ∧ next value = .ok result := by
  cases first with
  | error fault => simp [bind, Except.bind]
  | ok value => simp [bind, Except.bind]

theorem check_bind_eq_ok_iff {check : Except Fault Unit} {next : Unit → Except Fault Other}
    {result : Other} :
    (check >>= next) = .ok result ↔ check = .ok () ∧ next () = .ok result := by
  rw [bind_eq_ok_iff]
  constructor
  · rintro ⟨⟨⟩, passed, succeeded⟩
    exact ⟨passed, succeeded⟩
  · rintro ⟨passed, succeeded⟩
    exact ⟨(), passed, succeeded⟩

theorem map_eq_ok_iff {outcome : Except Fault Value} {change : Value → Other} {result : Other} :
    outcome.map change = .ok result ↔ ∃ value, outcome = .ok value ∧ change value = result := by
  cases outcome with
  | error fault => simp [Except.map]
  | ok value => simp [Except.map]

theorem exists_ok_of_toOption_map_eq_some {outcome : Except Fault Value} {view : Value → Other}
    {seen : Other} (sees : outcome.toOption.map view = some seen) :
    ∃ value, outcome = .ok value ∧ view value = seen := by
  cases outcome with
  | error fault => cases sees
  | ok value => exact ⟨value, rfl, Option.some.inj sees⟩

theorem forall₂_of_mapM_eq_ok {step : Value → Except Fault Other} {values : List Value}
    {results : List Other} (succeeded : values.mapM step = .ok results) :
    List.Forall₂ (fun value result => step value = .ok result) values results := by
  induction values generalizing results with
  | nil =>
    cases succeeded
    exact .nil
  | cons value rest inductionHypothesis =>
    rw [List.mapM_cons, bind_eq_ok_iff] at succeeded
    obtain ⟨first, headSucceeded, succeeded⟩ := succeeded
    obtain ⟨others, restSucceeded, same⟩ := bind_eq_ok_iff.1 succeeded
    cases same
    exact .cons headSucceeded (inductionHypothesis restSucceeded)

theorem mapM_eq_ok_iff {step : Value → Except Fault Other} {values : List Value}
    {results : List Other} :
    values.mapM step = .ok results ↔
      List.Forall₂ (fun value result => step value = .ok result) values results := by
  constructor
  · exact forall₂_of_mapM_eq_ok
  · intro succeeded
    induction succeeded with
    | nil => rfl
    | cons stepped _ inductionHypothesis =>
      rw [List.mapM_cons, stepped, inductionHypothesis]
      rfl

theorem exists_of_mem_of_forall₂ {Related : Value → Other → Prop} {values : List Value}
    {results : List Other} (related : List.Forall₂ Related values results) {result : Other}
    (member : result ∈ results) : ∃ value ∈ values, Related value result := by
  induction related with
  | nil => cases member
  | cons head _ inductionHypothesis =>
    rcases List.mem_cons.1 member with same | later
    · exact ⟨_, List.mem_cons_self, same ▸ head⟩
    · obtain ⟨value, inRest, holds⟩ := inductionHypothesis later
      exact ⟨value, List.mem_cons_of_mem _ inRest, holds⟩

/-- Two steps for each value are a step for each value and a step for each of its results. -/
theorem forall₂_exists_iff {First Second Third : Type} {Step : First → Second → Prop}
    {Further : Second → Third → Prop} {firsts : List First} {thirds : List Third} :
    List.Forall₂ (fun first third => ∃ second, Step first second ∧ Further second third)
      firsts thirds ↔
      ∃ seconds, List.Forall₂ Step firsts seconds ∧ List.Forall₂ Further seconds thirds := by
  constructor
  · intro both
    induction both with
    | nil => exact ⟨[], .nil, .nil⟩
    | cons steps _ inductionHypothesis =>
      obtain ⟨second, step, further⟩ := steps
      obtain ⟨seconds, stepped, furthered⟩ := inductionHypothesis
      exact ⟨second :: seconds, .cons step stepped, .cons further furthered⟩
  · rintro ⟨seconds, stepped, furthered⟩
    induction stepped generalizing thirds with
    | nil =>
      cases furthered
      exact .nil
    | cons step _ inductionHypothesis =>
      cases furthered with
      | cons further furthered => exact .cons ⟨_, step, further⟩ (inductionHypothesis furthered)

theorem exists_of_mem_of_mapM_eq_ok {step : Value → Except Fault Other} {values : List Value}
    {results : List Other} (succeeded : values.mapM step = .ok results) {result : Other}
    (member : result ∈ results) : ∃ value ∈ values, step value = .ok result :=
  exists_of_mem_of_forall₂ (forall₂_of_mapM_eq_ok succeeded) member

/-- What a step takes over from its value, a step for each value takes over from all
of them, in their order. -/
theorem map_eq_of_mapM_eq_ok {step : Value → Except Fault Other} {Part : Type}
    {ofValue : Value → Part} {ofResult : Other → Part}
    (keeps : ∀ value result, step value = .ok result → ofResult result = ofValue value)
    {values : List Value} {results : List Other} (succeeded : values.mapM step = .ok results) :
    results.map ofResult = values.map ofValue := by
  apply Eq.symm
  rw [← List.forall₂_eq_eq_eq, List.forall₂_map_left_iff, List.forall₂_map_right_iff]
  exact (forall₂_of_mapM_eq_ok succeeded).imp fun value result stepped =>
    (keeps value result stepped).symm

/-- What every step of a run keeps, the whole run keeps. -/
theorem foldlM_keeps {step : Other → Value → Except Fault Other} (Kept : Other → Prop)
    {values : List Value}
    (keeps : ∀ value ∈ values, ∀ before after, Kept before → step before value = .ok after →
      Kept after)
    {start result : Other} (atStart : Kept start)
    (succeeded : values.foldlM step start = .ok result) : Kept result := by
  induction values generalizing start with
  | nil =>
    cases succeeded
    exact atStart
  | cons value rest inductionHypothesis =>
    rw [List.forall_mem_cons] at keeps
    rw [List.foldlM_cons, bind_eq_ok_iff] at succeeded
    obtain ⟨after, stepped, succeeded⟩ := succeeded
    exact inductionHypothesis keeps.2 (keeps.1 start after atStart stepped) succeeded

/-! ### Failure -/

theorem bind_eq_error_iff {first : Except Fault Value} {next : Value → Except Fault Other}
    {fault : Fault} :
    (first >>= next) = .error fault ↔
      first = .error fault ∨ ∃ value, first = .ok value ∧ next value = .error fault := by
  cases first with
  | error other => simp [bind, Except.bind]
  | ok value => simp [bind, Except.bind]

theorem map_eq_error_iff {outcome : Except Fault Value} {change : Value → Other} {fault : Fault} :
    outcome.map change = .error fault ↔ outcome = .error fault := by
  cases outcome with
  | error other => simp [Except.map]
  | ok value => simp [Except.map]

theorem exists_of_foldlM_eq_error {step : Other → Value → Except Fault Other} {values : List Value}
    {start : Other} {fault : Fault} (failed : values.foldlM step start = .error fault) :
    ∃ value ∈ values, ∃ before, step before value = .error fault := by
  induction values generalizing start with
  | nil => cases failed
  | cons value rest inductionHypothesis =>
    rw [List.foldlM_cons, bind_eq_error_iff] at failed
    rcases failed with stepped | ⟨after, _, failed⟩
    · exact ⟨value, List.mem_cons_self, start, stepped⟩
    · obtain ⟨other, member, before, stepped⟩ := inductionHypothesis failed
      exact ⟨other, List.mem_cons_of_mem _ member, before, stepped⟩

theorem exists_of_mapM_eq_error {step : Value → Except Fault Other} {values : List Value}
    {fault : Fault} (failed : values.mapM step = .error fault) :
    ∃ value ∈ values, step value = .error fault := by
  induction values with
  | nil => cases failed
  | cons value rest inductionHypothesis =>
    rw [List.mapM_cons, bind_eq_error_iff] at failed
    rcases failed with stepped | ⟨_, _, failed⟩
    · exact ⟨value, List.mem_cons_self, stepped⟩
    · rcases bind_eq_error_iff.1 failed with failed | ⟨_, _, failed⟩
      · obtain ⟨other, member, stepped⟩ := inductionHypothesis failed
        exact ⟨other, List.mem_cons_of_mem _ member, stepped⟩
      · cases failed

def fault? : Except Fault Value → Option Fault
  | .ok _ => none
  | .error fault => some fault

@[simp]
theorem fault?_ok (value : Value) : fault? (.ok value : Except Fault Value) = none := rfl

@[simp]
theorem fault?_error (fault : Fault) :
    fault? (.error fault : Except Fault Value) = some fault := rfl

theorem fault?_eq_none_iff {outcome : Except Fault Value} :
    fault? outcome = none ↔ ∃ value, outcome = .ok value := by
  cases outcome with
  | error fault => simp
  | ok value => simp

theorem fault?_eq_some_iff {outcome : Except Fault Value} {fault : Fault} :
    fault? outcome = some fault ↔ outcome = .error fault := by
  cases outcome with
  | error other => simp
  | ok value => simp

/-- Of two steps the first fault counts, where that of the second does not depend on
the value of the first. -/
theorem fault?_bind {first : Except Fault Value} {next : Value → Except Fault Other}
    {later : Option Fault} (same : ∀ value, fault? (next value) = later) :
    fault? (first >>= next) = (fault? first).or later := by
  cases first with
  | error fault => rfl
  | ok value => exact same value

theorem fault?_bind_ok {first : Except Fault Value} {change : Value → Other} :
    fault? (first >>= fun value => .ok (change value)) = fault? first := by
  cases first with
  | error fault => rfl
  | ok value => rfl

theorem fault?_map {outcome : Except Fault Value} {change : Value → Other} :
    fault? (outcome.map change) = fault? outcome := by
  cases outcome with
  | error fault => rfl
  | ok value => rfl

theorem fault?_mapM {step : Value → Except Fault Other} (values : List Value) :
    fault? (values.mapM step) = values.findSome? fun value => fault? (step value) := by
  induction values with
  | nil => rfl
  | cons value rest inductionHypothesis =>
    have others : ∀ result, fault? (rest.mapM step >>= fun results => pure (result :: results)) =
        fault? (rest.mapM step) :=
      fun _ => fault?_bind_ok
    rw [List.mapM_cons, fault?_bind others, inductionHypothesis, List.findSome?_cons]
    cases fault? (step value) with
    | none => rfl
    | some fault => rfl

end Backoffice.Outcome
