import Mathlib.Data.List.Chain
import Mathlib.Order.Lattice

/-!
# Histories as contiguous periods

A history is a list of versions with half-open validity periods. It is
contiguous when every period ends where the next one starts and the last one is
open; then exactly one version is in effect at any time from the first start on.

The second part builds such a history from observations of a changing value: an
observation opens a version when its value differs from the one before it.
-/

namespace LakehouseOps
namespace Library
namespace Timeline

variable {Version Observation Value Time : Type*}

/-! ## Contiguous periods -/

section Contiguous

variable [LinearOrder Time] (start : Version -> Time) (stop : Version -> Option Time)

/-- The second period starts exactly where the first, nonempty one stops. -/
def Adjacent (first second : Version) : Prop :=
  stop first = some (start second) ∧ start first < start second

/-- Periods without gap or overlap, the last one open. -/
def Contiguous (versions : List Version) : Prop :=
  versions.IsChain (Adjacent start stop) ∧
    forall last, last ∈ versions.getLast? -> stop last = none

instance (first second : Version) : Decidable (Adjacent start stop first second) :=
  inferInstanceAs (Decidable (_ ∧ _))

instance (versions : List Version) : Decidable (Contiguous start stop versions) :=
  inferInstanceAs (Decidable (_ ∧ _))

/-- The version is valid at the given time. -/
def InEffect (time : Time) (version : Version) : Prop :=
  start version ≤ time ∧ forall limit, limit ∈ stop version -> time < limit

instance (time : Time) (version : Version) :
    Decidable (InEffect start stop time version) :=
  inferInstanceAs (Decidable (_ ∧ _))

/-- One period ends before another one starts. -/
private def Before (first second : Version) : Prop :=
  Exists fun limit =>
    stop first = some limit ∧ start first < limit ∧ limit ≤ start second

variable {start stop}

@[simp] theorem contiguous_nil : Contiguous start stop [] :=
  ⟨List.isChain_nil, by simp⟩

@[simp] theorem contiguous_singleton
    {version : Version} :
    Contiguous start stop [version] ↔ stop version = none := by
  simp [Contiguous]

private theorem before_trans
    {first second third : Version}
    (left : Before start stop first second)
    (right : Before start stop second third) :
    Before start stop first third := by
  obtain ⟨limit, stops, nonempty, le⟩ := left
  obtain ⟨next, _, nextNonempty, nextLe⟩ := right
  exact ⟨limit, stops, nonempty, le.trans (nextNonempty.le.trans nextLe)⟩

private theorem Contiguous.pairwise_before
    {versions : List Version}
    (contiguous : Contiguous start stop versions) :
    versions.Pairwise (Before start stop) := by
  have transitive : Trans (Before start stop) (Before start stop) (Before start stop) :=
    ⟨before_trans⟩
  refine (contiguous.1.imp ?_).pairwise
  rintro first second ⟨stops, nonempty⟩
  exact ⟨start second, stops, nonempty, le_rfl⟩

/-- Periods start in strictly ascending order. -/
theorem Contiguous.strict
    {versions : List Version}
    (contiguous : Contiguous start stop versions) :
    versions.Pairwise fun left right => start left < start right := by
  refine contiguous.pairwise_before.imp ?_
  rintro left right ⟨limit, _, nonempty, le⟩
  exact nonempty.trans_le le

/-- A period is nonempty. -/
theorem Contiguous.start_lt_stop
    {versions : List Version}
    (contiguous : Contiguous start stop versions)
    {version : Version}
    (member : version ∈ versions)
    {limit : Time}
    (stops : stop version = some limit) :
    start version < limit := by
  obtain ⟨before, after, rfl⟩ := List.append_of_mem member
  cases after with
  | nil =>
      have isOpen := contiguous.2 version (by simp)
      rw [isOpen] at stops
      contradiction
  | cons next rest =>
      have adjacent : Adjacent start stop version next := by
        have chain := (List.isChain_append.mp contiguous.1).2.1
        exact (List.isChain_cons_cons.mp chain).1
      rw [adjacent.1, Option.some.injEq] at stops
      exact stops ▸ adjacent.2

/-- Only the last period is open. -/
theorem Contiguous.stop_eq_none_iff
    {earlier : List Version}
    {last version : Version}
    (contiguous : Contiguous start stop (earlier ++ [last]))
    (member : version ∈ earlier ++ [last]) :
    stop version = none ↔ version = last := by
  constructor
  · intro isOpen
    rw [List.mem_append, List.mem_singleton] at member
    rcases member with inEarlier | isLast
    · have ordered := (List.pairwise_append.mp contiguous.pairwise_before).2.2
      obtain ⟨limit, stops, _⟩ := ordered version inEarlier last (by simp)
      rw [isOpen] at stops
      contradiction
    · exact isLast
  · rintro rfl
    exact contiguous.2 version (by simp)

/-- Versions that keep the periods of a contiguous history are contiguous. -/
theorem contiguous_map
    {Other : Type*}
    {update : Other -> Version}
    {otherStart : Other -> Time}
    {otherStop : Other -> Option Time}
    (keepsStart : forall other, start (update other) = otherStart other)
    (keepsStop : forall other, stop (update other) = otherStop other)
    {others : List Other} :
    Contiguous start stop (others.map update) ↔
      Contiguous otherStart otherStop others := by
  simp only [Contiguous, List.isChain_map, Adjacent, keepsStart, keepsStop,
    List.getLast?_map, Option.mem_def, Option.map_eq_some_iff,
    forall_exists_index, and_imp, forall_apply_eq_imp_iff₂]
  rfl

/-- Closing the open version and opening a later one keeps the history
contiguous. -/
theorem Contiguous.extend
    {earlier : List Version}
    {last closed next : Version}
    (contiguous : Contiguous start stop (earlier ++ [last]))
    (later : start last < start next)
    (sameStart : start closed = start last)
    (closes : stop closed = some (start next))
    (isOpen : stop next = none) :
    Contiguous start stop (earlier ++ [closed, next]) := by
  obtain ⟨earlierChain, _, linked⟩ := List.isChain_append.mp contiguous.1
  refine ⟨List.isChain_append.mpr ⟨earlierChain, ?_, ?_⟩, by simp [isOpen]⟩
  · simp [Adjacent, closes, sameStart, later]
  · intro previous previousLast second isClosed
    have adjacent := linked previous previousLast last rfl
    obtain rfl : closed = second := by simpa using isClosed
    exact ⟨sameStart ▸ adjacent.1, sameStart ▸ adjacent.2⟩

/-- At most one version is in effect at a time. -/
theorem Contiguous.inEffect_unique
    {versions : List Version}
    (contiguous : Contiguous start stop versions)
    {time : Time}
    {first second : Version}
    (firstMember : first ∈ versions)
    (secondMember : second ∈ versions)
    (firstInEffect : InEffect start stop time first)
    (secondInEffect : InEffect start stop time second) :
    first = second := by
  -- Of two versions in effect the earlier one would have ended already.
  have disjoint : forall left right, Before start stop left right ->
      InEffect start stop time left -> ¬InEffect start stop time right := by
    rintro left right ⟨limit, stops, _, le⟩ leftIn rightIn
    exact absurd (leftIn.2 limit stops) (not_lt.mpr (le.trans rightIn.1))
  by_contra different
  have ordered := contiguous.pairwise_before.imp
    (S := fun left right => InEffect start stop time left ->
      ¬InEffect start stop time right) (disjoint _ _)
  have symmetric : Std.Symm fun left right => InEffect start stop time left ->
      ¬InEffect start stop time right :=
    ⟨fun _ _ excluded rightIn leftIn => excluded leftIn rightIn⟩
  exact ordered.forall firstMember secondMember different firstInEffect secondInEffect

/-- Some version is in effect at every time from the first start on. -/
theorem Contiguous.exists_inEffect
    {versions : List Version}
    (contiguous : Contiguous start stop versions)
    {time : Time}
    {version : Version}
    (member : version ∈ versions)
    (started : start version ≤ time) :
    Exists fun current => current ∈ versions ∧ InEffect start stop time current := by
  obtain ⟨before, after, rfl⟩ := List.append_of_mem member
  clear member
  induction after generalizing before version with
  | nil =>
      refine ⟨version, by simp, started, ?_⟩
      intro limit stops
      have isOpen := contiguous.2 version (by simp)
      rw [isOpen] at stops
      contradiction
  | cons next rest inductionHypothesis =>
      by_cases nextStarted : start next ≤ time
      · have shifted : before ++ version :: next :: rest =
            (before ++ [version]) ++ next :: rest := by simp
        rw [shifted] at contiguous ⊢
        exact inductionHypothesis nextStarted (before ++ [version]) contiguous
      · have adjacent : Adjacent start stop version next := by
          have chain := (List.isChain_append.mp contiguous.1).2.1
          exact (List.isChain_cons_cons.mp chain).1
        refine ⟨version, by simp, started, ?_⟩
        intro limit stops
        rw [adjacent.1, Option.mem_some_iff] at stops
        exact stops ▸ not_le.mp nextStarted

end Contiguous

/-! ## Observed changes -/

section Changes

/-- The value after some observations, given the value before them. -/
private def valueAfter
    (value : Observation -> Value)
    (previous : Option Value)
    (observations : List Observation) : Option Value :=
  (observations.getLast?.map value).or previous

private theorem valueAfter_cons
    {value : Observation -> Value}
    (previous : Option Value)
    (observation : Observation)
    (rest : List Observation) :
    valueAfter value previous (observation :: rest) =
      valueAfter value (some (value observation)) rest := by
  cases rest with
  | nil => rfl
  | cons next rest =>
      obtain ⟨last, isLast⟩ := Option.isSome_iff_exists.mp
        (List.getLast?_isSome.mpr (List.cons_ne_nil next rest))
      simp [valueAfter, List.getLast?_cons_cons, isLast]

private theorem valueAfter_none
    {value : Observation -> Value}
    (observations : List Observation) :
    valueAfter value none observations = observations.getLast?.map value := by
  simp [valueAfter]

variable [DecidableEq Value] (value : Observation -> Value) (time : Observation -> Time)

/-- The observations whose value differs from the value before them. -/
def changesFrom (previous : Option Value) : List Observation -> List Observation
  | [] => []
  | observation :: rest =>
      if previous = some (value observation) then
        changesFrom (some (value observation)) rest
      else observation :: changesFrom (some (value observation)) rest

/-- The observations that open a new version. -/
def changes (observations : List Observation) : List Observation :=
  changesFrom value none observations

/-- Each observation with the time of the next one. -/
def periods : List Observation -> List (Observation × Option Time)
  | [] => []
  | observation :: rest => (observation, rest.head?.map time) :: periods rest

/-- The versions a list of observations in time order gives rise to. -/
def timeline (observations : List Observation) : List (Observation × Option Time) :=
  periods time (changes value observations)

variable {value time}

@[simp] theorem changes_nil : changes value ([] : List Observation) = [] := rfl

theorem changesFrom_sublist
    (previous : Option Value)
    (observations : List Observation) :
    (changesFrom value previous observations).Sublist observations := by
  induction observations generalizing previous with
  | nil => exact List.Sublist.refl []
  | cons observation rest inductionHypothesis =>
      rw [changesFrom]
      split
      · exact (inductionHypothesis _).cons observation
      · exact (inductionHypothesis _).cons_cons observation

theorem changes_sublist (observations : List Observation) :
    (changes value observations).Sublist observations :=
  changesFrom_sublist none observations

private theorem valueAfter_changesFrom
    (previous : Option Value)
    (observations : List Observation) :
    valueAfter value previous (changesFrom value previous observations) =
      valueAfter value previous observations := by
  induction observations generalizing previous with
  | nil => rfl
  | cons observation rest inductionHypothesis =>
      rw [changesFrom, valueAfter_cons]
      split
      · rename_i same
        rw [same, inductionHypothesis]
      · rw [valueAfter_cons, inductionHypothesis]

/-- The value of the last change is the last value observed. -/
theorem getLast_changes (observations : List Observation) :
    (changes value observations).getLast?.map value =
      observations.getLast?.map value := by
  rw [← valueAfter_none, ← valueAfter_none, changes, valueAfter_changesFrom]

private theorem changesFrom_append
    (previous : Option Value)
    (earlier : List Observation)
    (next : Observation) :
    changesFrom value previous (earlier ++ [next]) =
      changesFrom value previous earlier ++
        if valueAfter value previous earlier = some (value next) then []
        else [next] := by
  induction earlier generalizing previous with
  | nil => rfl
  | cons observation rest inductionHypothesis =>
      rw [List.cons_append, changesFrom, changesFrom, inductionHypothesis,
        valueAfter_cons]
      split <;> rfl

/-- A later observation adds a change exactly when its value is new. -/
theorem changes_append
    (earlier : List Observation)
    (next : Observation) :
    changes value (earlier ++ [next]) =
      changes value earlier ++
        if earlier.getLast?.map value = some (value next) then [] else [next] := by
  rw [changes, changesFrom_append, valueAfter_none]
  rfl

/-- Two values that agree on which observations are equal give the same
changes. -/
theorem changesFrom_congr
    {Other : Type*}
    [DecidableEq Other]
    {other : Observation -> Other}
    (previous : Option Observation)
    {observations : List Observation}
    (same : forall left, left ∈ previous.toList ++ observations ->
      forall right, right ∈ previous.toList ++ observations ->
        (value left = value right ↔ other left = other right)) :
    changesFrom value (previous.map value) observations =
      changesFrom other (previous.map other) observations := by
  induction observations generalizing previous with
  | nil => rfl
  | cons observation rest inductionHypothesis =>
      have later : changesFrom value (some (value observation)) rest =
          changesFrom other (some (other observation)) rest := by
        apply inductionHypothesis (some observation)
        intro left leftMember right rightMember
        exact same left (List.mem_append_right _ leftMember) right
          (List.mem_append_right _ rightMember)
      have equal : previous.map value = some (value observation) ↔
          previous.map other = some (other observation) := by
        cases previous with
        | none => simp
        | some before =>
            simpa using same before (by simp) observation (by simp)
      rw [changesFrom, changesFrom, later]
      by_cases repeated : previous.map value = some (value observation)
      · rw [if_pos repeated, if_pos (equal.mp repeated)]
      · rw [if_neg repeated, if_neg (mt equal.mpr repeated)]

theorem changes_congr
    {Other : Type*}
    [DecidableEq Other]
    {other : Observation -> Other}
    {observations : List Observation}
    (same : forall left, left ∈ observations -> forall right, right ∈ observations ->
      (value left = value right ↔ other left = other right)) :
    changes value observations = changes other observations :=
  changesFrom_congr none same

@[simp] theorem periods_nil : periods time ([] : List Observation) = [] := rfl

@[simp] theorem periods_map_fst (observations : List Observation) :
    (periods time observations).map Prod.fst = observations := by
  induction observations with
  | nil => rfl
  | cons observation rest inductionHypothesis => simp [periods, inductionHypothesis]

/-- The last observation is open until a later one arrives, which closes it. -/
theorem periods_append_two
    (time : Observation -> Time)
    (earlier : List Observation)
    (last next : Observation) :
    Exists fun closed =>
      periods time (earlier ++ [last]) = closed ++ [(last, none)] ∧
      periods time (earlier ++ [last, next]) =
        closed ++ [(last, some (time next)), (next, none)] := by
  induction earlier with
  | nil => exact ⟨[], rfl, rfl⟩
  | cons observation rest inductionHypothesis =>
      obtain ⟨closed, before, after⟩ := inductionHypothesis
      have sameHead : ((rest ++ [last]).head?.map time) =
          ((rest ++ [last, next]).head?.map time) := by
        cases rest <;> rfl
      refine ⟨(observation, (rest ++ [last]).head?.map time) :: closed, ?_, ?_⟩
      · rw [List.cons_append, periods, before, List.cons_append]
      · rw [List.cons_append, periods, after, List.cons_append, sameHead]

variable [LinearOrder Time]

theorem periods_contiguous
    {observations : List Observation}
    (ascending : observations.Pairwise fun left right => time left < time right) :
    Contiguous (fun version => time version.1) Prod.snd (periods time observations) := by
  induction observations with
  | nil => exact contiguous_nil
  | cons observation rest inductionHypothesis =>
      obtain ⟨headBefore, restAscending⟩ := List.pairwise_cons.mp ascending
      have restContiguous := inductionHypothesis restAscending
      cases rest with
      | nil => simp [periods]
      | cons next rest =>
          refine ⟨List.isChain_cons_cons.mpr ⟨?_, restContiguous.1⟩, ?_⟩
          · exact ⟨rfl, headBefore next List.mem_cons_self⟩
          · simpa [periods] using restContiguous.2

/-- Observations in time order give a contiguous history. -/
theorem timeline_contiguous
    {observations : List Observation}
    (ascending : observations.Pairwise fun left right => time left < time right) :
    Contiguous (fun version => time version.1) Prod.snd
      (timeline value time observations) :=
  periods_contiguous (ascending.sublist (changes_sublist observations))

end Changes

end Timeline
end Library
end LakehouseOps
