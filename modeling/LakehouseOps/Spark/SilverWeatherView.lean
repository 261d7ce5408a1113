import Mathlib
import LakehouseOps.Spark.SilverWeather

/-!
# Silver as a view of bronze

After each run the silver table has the survivors of all passing bronze rows, and the
reject table each failing bronze row once, whatever was appended and run before.
-/

namespace LakehouseOps
namespace Spark
namespace SilverWeather

open Library Library.Table
open BronzeWeather

variable {Number : Type} {doubles : Doubles Number} {sha2 : Sha2 Number}
  {bronze : List (BronzeRow Number)}

/-! ## The view -/

/-- The row has no quality errors. -/
def Passes (doubles : Doubles Number) (row : BronzeRow Number) : Prop :=
  qualityErrors doubles row = []

instance (doubles : Doubles Number) (row : BronzeRow Number) : Decidable (Passes doubles row) :=
  inferInstanceAs (Decidable (qualityErrors doubles row = []))

/-- The row is the latest of the passing rows of its place and hour. -/
structure Survivor
    (doubles : Doubles Number)
    (bronze : List (BronzeRow Number))
    (row : BronzeRow Number) : Prop where
  member : row ∈ bronze
  passes : Passes doubles row
  latest : forall other, other ∈ bronze -> Passes doubles other -> place other = place row ->
    recency other ≤ recency row

/-- The table has the survivors, one for each place and hour with a passing row. -/
structure SurvivorView
    (doubles : Doubles Number)
    (bronze silver : List (BronzeRow Number)) : Prop where
  once : (silver.map place).Nodup
  exact : forall row, row ∈ silver ↔ Survivor doubles bronze row
  everyPlace : forall row, row ∈ bronze -> Passes doubles row ->
    Exists fun survivor => survivor ∈ silver ∧ place survivor = place row

/-- The reject of a row. -/
def rejectOf (doubles : Doubles Number) (sha2 : Sha2 Number) (row : BronzeRow Number) :
    RejectRow Number where
  row := row
  qualityErrors := qualityErrors doubles row
  rejectId := sha2 (toJson row)

/-- The table has one reject for each row that fails. -/
structure RejectView
    (doubles : Doubles Number)
    (sha2 : Sha2 Number)
    (bronze : List (BronzeRow Number))
    (rejects : List (RejectRow Number)) : Prop where
  once : (rejects.map RejectRow.row).Nodup
  exact : forall reject, reject ∈ rejects ↔
    Exists fun row => row ∈ bronze ∧ ¬Passes doubles row ∧ reject = rejectOf doubles sha2 row

/-- Bronze rows: rows with a key have different keys, and hours are whole minutes. Rows
without a key that are the same to the millisecond are the same. The digest has no
collision among them. -/
structure BronzeRows (sha2 : Sha2 Number) (rows : List (BronzeRow Number)) : Prop where
  unique : forall left, left ∈ rows -> forall right, right ∈ rows ->
    hasKey left.key = true -> left.key = right.key -> left = right
  minutes : forall row, row ∈ rows -> forall time, row.observedAt = some time ->
    60000000 ∣ time
  keyless : forall left, left ∈ rows -> forall right, right ∈ rows ->
    hasKey left.key = false -> toJson left = toJson right -> left = right
  collisionFree : forall left, left ∈ rows -> forall right, right ∈ rows ->
    sha2 (toJson left) = sha2 (toJson right) -> toJson left = toJson right

theorem BronzeRows.subset
    {rows others : List (BronzeRow Number)}
    (valid : BronzeRows sha2 others)
    (included : forall row, row ∈ rows -> row ∈ others) :
    BronzeRows sha2 rows where
  unique := fun left isLeft right isRight =>
    valid.unique left (included left isLeft) right (included right isRight)
  minutes := fun row member => valid.minutes row (included row member)
  keyless := fun left isLeft right isRight =>
    valid.keyless left (included left isLeft) right (included right isRight)
  collisionFree := fun left isLeft right isRight =>
    valid.collisionFree left (included left isLeft) right (included right isRight)

/-! ## Rows that pass -/

/-- A passing row has a checksum, a location and an hour. -/
structure Complete (row : BronzeRow Number) : Prop where
  checksum : row.objectChecksum.isSome = true
  location : row.locationName.isSome = true
  observed : row.observedAt.isSome = true

theorem Passes.complete {row : BronzeRow Number} (passes : Passes doubles row) :
    Complete row := by
  have notBlank : forall {text : Option String}, blank text = false -> text.isSome = true := by
    intro text isText
    cases text with
    | none => exact nomatch isText
    | some text => rfl
  have none := List.filterMap_eq_nil_iff.mp passes
  simp only [List.forall_mem_cons, ite_eq_right_iff, reduceCtorEq, imp_false,
    Bool.not_eq_true] at none
  obtain ⟨checksum, location, _, _, _, observed, _⟩ := none
  exact ⟨notBlank checksum, notBlank location, by simpa using observed⟩

theorem Complete.hasKey {row : BronzeRow Number} (complete : Complete row) :
    hasKey row.key = true :=
  Bool.and_eq_true_iff.mpr ⟨complete.checksum, complete.observed⟩

/-- The location and the hour are not null. -/
def hasPlace (place : Place) : Bool :=
  place.1.isSome && place.2.isSome

theorem Complete.hasPlace {row : BronzeRow Number} (complete : Complete row) :
    hasPlace (place row) = true :=
  Bool.and_eq_true_iff.mpr ⟨complete.location, complete.observed⟩

/-- Passing rows with one hour and one checksum are one row. -/
theorem eq_of_checksum
    (valid : BronzeRows sha2 bronze)
    {left right : BronzeRow Number}
    (isLeft : left ∈ bronze)
    (isRight : right ∈ bronze)
    (passes : Passes doubles left)
    (samePlace : place left = place right)
    (sameChecksum : left.objectChecksum = right.objectChecksum) :
    left = right := by
  have sameHour : left.observedAt = right.observedAt := congrArg Prod.snd samePlace
  exact valid.unique left isLeft right isRight passes.complete.hasKey
    (Prod.ext sameChecksum sameHour)

/-- No two passing rows of one place and hour are equally recent. -/
theorem eq_of_recency
    (valid : BronzeRows sha2 bronze)
    {left right : BronzeRow Number}
    (isLeft : left ∈ bronze)
    (isRight : right ∈ bronze)
    (passes : Passes doubles left)
    (samePlace : place left = place right)
    (sameRecency : recency left = recency right) :
    left = right :=
  eq_of_checksum valid isLeft isRight passes samePlace
    (congrArg (fun value => (ofLex value).2) sameRecency)

/-! ## Survivors -/

/-- The passing rows. -/
def passing (doubles : Doubles Number) (bronze : List (BronzeRow Number)) :
    List (BronzeRow Number) :=
  bronze.filter fun row => Passes doubles row

theorem mem_passing {row : BronzeRow Number} :
    row ∈ passing doubles bronze ↔ row ∈ bronze ∧ Passes doubles row := by
  simp [passing]

/-- The survivors that a run selects. -/
def survivors (doubles : Doubles Number) (bronze : List (BronzeRow Number)) :
    List (BronzeRow Number) :=
  selectSurvivors
    ((classify doubles bronze).filter fun entry => entry.qualityErrors.length = 0)

theorem survivors_eq (doubles : Doubles Number) (bronze : List (BronzeRow Number)) :
    survivors doubles bronze =
      windowOver place (fun row => OrderDual.toDual (recency row)) (List.take 1)
        (passing doubles bronze) := by
  unfold survivors selectSurvivors classify
  rw [List.filter_map, List.map_map]
  have same : (bronze.filter ((fun entry : ClassifiedRow Number =>
      decide (entry.qualityErrors.length = 0)) ∘ fun row =>
        { row, qualityErrors := qualityErrors doubles row })) = passing doubles bronze := by
    exact List.filter_congr fun row _ => decide_eq_decide.mpr List.length_eq_zero_iff
  rw [same]
  exact congrArg _ (List.map_id _)

theorem nodup_survivors : ((survivors doubles bronze).map place).Nodup := by
  rw [survivors_eq]
  exact nodup_first

theorem mem_survivors_iff
    (valid : BronzeRows sha2 bronze)
    {row : BronzeRow Number} :
    row ∈ survivors doubles bronze ↔ Survivor doubles bronze row := by
  rw [survivors_eq, mem_first_iff]
  · simp only [mem_passing, OrderDual.toDual_le_toDual]
    constructor
    · rintro ⟨⟨member, passes⟩, latest⟩
      exact ⟨member, passes, fun other isOther otherPasses => latest other ⟨isOther, otherPasses⟩⟩
    · rintro ⟨member, passes, latest⟩
      exact ⟨⟨member, passes⟩, fun other isOther => latest other isOther.1 isOther.2⟩
  · intro left isLeft right isRight samePlace sameRecency
    obtain ⟨leftMember, leftPasses⟩ := mem_passing.mp isLeft
    exact eq_of_recency valid leftMember (mem_passing.mp isRight).1 leftPasses samePlace
      (OrderDual.toDual_inj.mp sameRecency)

/-- Every place and hour of a passing row has a survivor. -/
theorem exists_survivor
    {row : BronzeRow Number}
    (member : row ∈ bronze)
    (passes : Passes doubles row) :
    Exists fun survivor => survivor ∈ survivors doubles bronze ∧ place survivor = place row := by
  rw [survivors_eq]
  exact exists_mem_first (mem_passing.mpr ⟨member, passes⟩)

theorem view_survivors (valid : BronzeRows sha2 bronze) :
    SurvivorView doubles bronze (survivors doubles bronze) where
  once := nodup_survivors
  exact := fun _ => mem_survivors_iff valid
  everyPlace := fun _ => exists_survivor

theorem samePlace_matches :
    MatchesOn (samePlace : BronzeRow Number -> BronzeRow Number -> Bool) place hasPlace := by
  intro target source
  unfold samePlace place hasPlace sqlEq
  simp only [Bool.and_eq_true, decide_eq_true_eq, Prod.mk.injEq]
  constructor
  · rintro ⟨⟨location, sameLocation⟩, observed, sameObserved⟩
    exact ⟨⟨sameLocation, sameObserved⟩, sameLocation ▸ location, sameObserved ▸ observed⟩
  · rintro ⟨⟨sameLocation, sameObserved⟩, location, observed⟩
    exact ⟨⟨sameLocation ▸ location, sameLocation⟩, sameObserved ▸ observed, sameObserved⟩

/-- The merge updates the survivors of fewer rows to those of more: a row whose checksum is
the same is the same row. -/
theorem upsert_survivors
    (valid : BronzeRows sha2 bronze)
    {earlier silver : List (BronzeRow Number)}
    (included : forall row, row ∈ earlier -> row ∈ bronze)
    (view : SurvivorView doubles earlier silver) :
    Upsert samePlace place hasPlace replaceChanged silver (survivors doubles bronze) where
  byColumns := samePlace_matches
  targetDistinct := view.once
  sourceDistinct := nodup_survivors
  allPresent := by
    intro row member
    exact ((mem_survivors_iff valid).mp member).passes.complete.hasPlace
  partnered := by
    intro row member
    have survivor := (view.exact row).mp member
    obtain ⟨other, isOther, same⟩ := exists_survivor (included row survivor.member) survivor.passes
    exact ⟨other, isOther, same.symm⟩
  updates := by
    intro row member other isOther samePlaces
    have survivor := (view.exact row).mp member
    have otherSurvivor := (mem_survivors_iff valid).mp isOther
    unfold replaceChanged sqlNe
    rw [survivor.passes.complete.checksum, otherSurvivor.passes.complete.checksum]
    by_cases sameChecksum : row.objectChecksum = other.objectChecksum
    · rw [eq_of_checksum valid (included row survivor.member) otherSurvivor.member
        survivor.passes samePlaces sameChecksum]
      exact ite_self _
    · simp [sameChecksum]

/-! ## Rejects -/

/-- Whole minutes are told apart by their milliseconds. -/
theorem eq_of_timeCell
    {left right : Option Int}
    (leftMinutes : forall time, left = some time -> 60000000 ∣ time)
    (rightMinutes : forall time, right = some time -> 60000000 ∣ time)
    (same : left.map (timeCell : Int -> Cell Number) = right.map timeCell) :
    left = right := by
  cases left with
  | none => exact (Option.map_eq_none_iff.mp same.symm).symm
  | some leftTime =>
      obtain ⟨rightTime, rfl, sameCell⟩ := Option.map_eq_some_iff.mp same.symm
      have sameMillisecond : rightTime / 1000 = leftTime / 1000 := Cell.time.inj sameCell
      have leftWhole := leftMinutes leftTime rfl
      have rightWhole := rightMinutes rightTime rfl
      rw [show leftTime = rightTime by omega]

/-- The names of the columns. -/
def columnNames : List String :=
  ["object_checksum", "source", "ingested_at", "location_name", "latitude", "longitude",
    "observed_at", "temperature_2m", "relative_humidity_2m", "precipitation", "wind_speed_10m"]

theorem columns_names (row : BronzeRow Number) : (columns row).map Prod.fst = columnNames := rfl

theorem columns_of_toJson {left right : BronzeRow Number} (same : toJson left = toJson right) :
    columns left = columns right := by
  refine presentFields_injective rfl ?_ same
  rw [columns_names]
  decide

/-- Rows of bronze with one digest are one row. -/
theorem BronzeRows.eq_of_digest
    (valid : BronzeRows sha2 bronze)
    {left right : BronzeRow Number}
    (isLeft : left ∈ bronze)
    (isRight : right ∈ bronze)
    (same : sha2 (toJson left) = sha2 (toJson right)) :
    left = right := by
  have sameJson := valid.collisionFree left isLeft right isRight same
  cases keyed : BronzeWeather.hasKey left.key with
  | false => exact valid.keyless left isLeft right isRight keyed sameJson
  | true =>
      have sameColumns := columns_of_toJson sameJson
      simp only [columns, List.cons.injEq, Prod.mk.injEq, true_and] at sameColumns
      obtain ⟨checksum, _, _, _, _, _, observed, _⟩ := sameColumns
      have sameChecksum : left.objectChecksum = right.objectChecksum :=
        Option.map_injective (fun _ _ => Cell.text.inj) checksum
      have sameHour : left.observedAt = right.observedAt :=
        eq_of_timeCell (valid.minutes left isLeft) (valid.minutes right isRight) observed
      exact valid.unique left isLeft right isRight keyed (Prod.ext sameChecksum sameHour)

/-- The rejects that a run selects. -/
def selectedRejects
    (doubles : Doubles Number)
    (sha2 : Sha2 Number)
    (bronze : List (BronzeRow Number)) : List (RejectRow Number) :=
  selectRejects sha2 (classify doubles bronze)

/-- The table has rejects of failing rows of bronze only. -/
def OfFailing
    (doubles : Doubles Number)
    (sha2 : Sha2 Number)
    (bronze : List (BronzeRow Number))
    (rejects : List (RejectRow Number)) : Prop :=
  forall reject, reject ∈ rejects -> Exists fun row =>
    row ∈ bronze ∧ ¬Passes doubles row ∧ reject = rejectOf doubles sha2 row

/-- Such rejects with distinct identifiers, one for each failing row, are the view. -/
theorem rejectView_of_ids
    (valid : BronzeRows sha2 bronze)
    {rejects : List (RejectRow Number)}
    (ofFailing : OfFailing doubles sha2 bronze rejects)
    (distinct : (rejects.map RejectRow.rejectId).Nodup)
    (every : forall row, row ∈ bronze -> ¬Passes doubles row ->
      sha2 (toJson row) ∈ rejects.map RejectRow.rejectId) :
    RejectView doubles sha2 bronze rejects where
  once := by
    refine List.Nodup.of_map (fun row => sha2 (toJson row)) ?_
    have ids : (rejects.map RejectRow.row).map (fun row => sha2 (toJson row)) =
        rejects.map RejectRow.rejectId := by
      rw [List.map_map]
      refine List.map_congr_left fun reject member => ?_
      obtain ⟨row, _, _, rfl⟩ := ofFailing reject member
      rfl
    rw [ids]
    exact distinct
  exact := by
    intro reject
    constructor
    · exact ofFailing reject
    · rintro ⟨row, isBronze, fails, rfl⟩
      obtain ⟨other, isOther, sameId⟩ := List.mem_map.mp (every row isBronze fails)
      obtain ⟨otherRow, otherBronze, _, rfl⟩ := ofFailing other isOther
      have sameRow : otherRow = row := valid.eq_of_digest otherBronze isBronze sameId
      exact sameRow ▸ isOther

theorem RejectView.ofFailing
    {rejects : List (RejectRow Number)}
    (view : RejectView doubles sha2 bronze rejects) :
    OfFailing doubles sha2 bronze rejects :=
  fun reject => (view.exact reject).mp

/-- In the view the identifiers are distinct, too. -/
theorem RejectView.ids_nodup
    (valid : BronzeRows sha2 bronze)
    {rejects : List (RejectRow Number)}
    (view : RejectView doubles sha2 bronze rejects) :
    (rejects.map RejectRow.rejectId).Nodup := by
  refine (List.Nodup.of_map _ view.once).map_on fun left isLeft right isRight same => ?_
  obtain ⟨leftRow, leftBronze, _, rfl⟩ := view.ofFailing left isLeft
  obtain ⟨rightRow, rightBronze, _, rfl⟩ := view.ofFailing right isRight
  rw [valid.eq_of_digest leftBronze rightBronze same]

/-- The rejects of the failing rows, before duplicates are dropped. -/
theorem selectedRejects_eq
    (doubles : Doubles Number)
    (sha2 : Sha2 Number)
    (bronze : List (BronzeRow Number)) :
    selectedRejects doubles sha2 bronze =
      distinctBy RejectRow.rejectId
        ((bronze.filter fun row => ¬Passes doubles row).map (rejectOf doubles sha2)) := by
  unfold selectedRejects selectRejects classify
  rw [List.filter_map, List.map_map]
  refine congrArg (distinctBy RejectRow.rejectId) ?_
  refine congrArg (List.map _) (List.filter_congr fun row _ => decide_eq_decide.mpr ?_)
  exact List.length_pos_iff

theorem ofFailing_selectedRejects :
    OfFailing doubles sha2 bronze (selectedRejects doubles sha2 bronze) := by
  intro reject member
  rw [selectedRejects_eq] at member
  obtain ⟨row, isFailing, rfl⟩ := List.mem_map.mp (mem_of_mem_distinctBy member)
  obtain ⟨isBronze, fails⟩ := List.mem_filter.mp isFailing
  exact ⟨row, isBronze, of_decide_eq_true fails, rfl⟩

theorem mem_selectedRejects_ids
    {row : BronzeRow Number}
    (member : row ∈ bronze)
    (fails : ¬Passes doubles row) :
    sha2 (toJson row) ∈ (selectedRejects doubles sha2 bronze).map RejectRow.rejectId := by
  rw [selectedRejects_eq, mem_distinctBy_map, List.map_map]
  exact List.mem_map_of_mem (f := RejectRow.rejectId ∘ rejectOf doubles sha2)
    (List.mem_filter.mpr ⟨member, decide_eq_true fails⟩)

theorem sameReject_matches :
    MatchesOn (sameReject : RejectRow Number -> RejectRow Number -> Bool) RejectRow.rejectId
      fun _ => true := by
  intro target source
  simp [sameReject]

/-- The merge adds the rejects of the failing rows that are new. -/
theorem view_merged_rejects
    (valid : BronzeRows sha2 bronze)
    {earlier : List (BronzeRow Number)}
    {rejects : List (RejectRow Number)}
    (included : forall row, row ∈ earlier -> row ∈ bronze)
    (view : RejectView doubles sha2 earlier rejects) :
    RejectView doubles sha2 bronze
      (mergeInsert sameReject rejects (selectedRejects doubles sha2 bronze)) := by
  refine rejectView_of_ids valid ?_ ?_ ?_
  · intro reject member
    rcases List.mem_append.mp member with old | added
    · obtain ⟨row, isEarlier, rest⟩ := view.ofFailing reject old
      exact ⟨row, included row isEarlier, rest⟩
    · exact ofFailing_selectedRejects reject (List.mem_filter.mp added).1
  · refine (nodup_mergeInsert_iff sameReject_matches fun _ _ => rfl).mpr
      ⟨view.ids_nodup (valid.subset included), ?_⟩
    rw [selectedRejects_eq]
    exact (nodup_distinctBy _ _).sublist (List.filter_sublist.map _)
  · intro row isBronze fails
    exact (mem_mergeInsert_columns sameReject_matches).mpr
      (Or.inr (mem_selectedRejects_ids isBronze fails))

/-- The merge adds nothing to the view of the same rows. -/
theorem merged_rejects_unchanged
    {rejects : List (RejectRow Number)}
    (view : RejectView doubles sha2 bronze rejects) :
    mergeInsert sameReject rejects (selectedRejects doubles sha2 bronze) = rejects := by
  refine mergeInsert_of_present fun reject member => ?_
  have present := (view.exact reject).mpr (ofFailing_selectedRejects reject member)
  exact ⟨reject, present, decide_eq_true rfl⟩

/-! ## Runs -/

/-- The tables are the views of some of the bronze rows, those of the last run. -/
def Viewed (doubles : Doubles Number) (sha2 : Sha2 Number) (tables : Tables Number) : Prop :=
  Exists fun earlier => (forall row, row ∈ earlier -> row ∈ tables.bronze) ∧
    SurvivorView doubles earlier tables.silver ∧ RejectView doubles sha2 earlier tables.rejects

/-- The tables are the views of the bronze rows. -/
structure UpToDate
    (doubles : Doubles Number)
    (sha2 : Sha2 Number)
    (tables : Tables Number) : Prop where
  silver : SurvivorView doubles tables.bronze tables.silver
  rejects : RejectView doubles sha2 tables.bronze tables.rejects

theorem UpToDate.viewed {tables : Tables Number} (upToDate : UpToDate doubles sha2 tables) :
    Viewed doubles sha2 tables :=
  ⟨tables.bronze, fun _ => id, upToDate.silver, upToDate.rejects⟩

theorem writeSilver_of_merge
    (sha2 : Sha2 Number)
    {tables : Tables Number}
    {silver : List (BronzeRow Number)}
    (merged : merge samePlace replaceChanged (fun _ => true) id tables.silver
      (survivors doubles tables.bronze) = some silver) :
    Exists fun report => writeSilver doubles sha2 tables =
      some ({ bronze := tables.bronze, silver,
              rejects := mergeInsert sameReject tables.rejects
                (selectedRejects doubles sha2 tables.bronze) }, report) := by
  unfold writeSilver
  change Exists fun report => (merge samePlace replaceChanged (fun _ => true) id tables.silver
    (survivors doubles tables.bronze)).bind _ = _
  rw [merged]
  exact ⟨_, rfl⟩

/-- A run makes the tables views of all bronze rows. -/
theorem writeSilver_upToDate
    {tables : Tables Number}
    (valid : BronzeRows sha2 tables.bronze)
    (viewed : Viewed doubles sha2 tables) :
    Exists fun after => Exists fun report =>
      writeSilver doubles sha2 tables = some (after, report) ∧ after.bronze = tables.bronze ∧
        UpToDate doubles sha2 after := by
  obtain ⟨earlier, included, silverView, rejectView⟩ := viewed
  obtain ⟨silver, merged, distinct, sameRows⟩ :=
    (upsert_survivors valid included silverView).replaces
  obtain ⟨report, returned⟩ := writeSilver_of_merge sha2 merged
  refine ⟨_, report, returned, rfl, ?_, view_merged_rejects valid included rejectView⟩
  have survivors : SurvivorView doubles tables.bronze _ := view_survivors valid
  exact {
    once := distinct
    exact := fun row => (sameRows row).trans (survivors.exact row)
    everyPlace := by
      intro row member passes
      obtain ⟨survivor, isSurvivor, same⟩ := survivors.everyPlace row member passes
      exact ⟨survivor, (sameRows survivor).mpr isSurvivor, same⟩ }

/-- A run on views of all bronze rows changes nothing. -/
theorem writeSilver_unchanged
    {tables : Tables Number}
    (valid : BronzeRows sha2 tables.bronze)
    (upToDate : UpToDate doubles sha2 tables) :
    Exists fun report => writeSilver doubles sha2 tables = some (tables, report) := by
  have sameRows : forall row, row ∈ tables.silver ↔ row ∈ survivors doubles tables.bronze :=
    fun row => (upToDate.silver.exact row).trans (mem_survivors_iff valid).symm
  have merged := (upsert_survivors valid (fun _ => id) upToDate.silver).unchanged sameRows
  obtain ⟨report, returned⟩ := writeSilver_of_merge sha2 merged
  rw [merged_rejects_unchanged upToDate.rejects] at returned
  exact ⟨report, returned⟩

theorem viewed_initial : Viewed doubles sha2 (history doubles sha2).initial := by
  refine ⟨[], fun _ member => member, ⟨List.nodup_nil, ?_, ?_⟩, ⟨List.nodup_nil, ?_⟩⟩
  · intro row
    exact ⟨fun member => absurd member List.not_mem_nil, fun survivor => survivor.member⟩
  · intro row member
    exact absurd member List.not_mem_nil
  · intro reject
    refine ⟨fun member => absurd member List.not_mem_nil, ?_⟩
    rintro ⟨row, member, _⟩
    exact absurd member List.not_mem_nil

/-- A run that returns leaves the tables it returns. -/
theorem step_run
    {tables : Tables Number}
    {result : Tables Number × SilverReport}
    (returned : writeSilver doubles sha2 tables = some result) :
    (history doubles sha2).step tables .run = result.1 := by
  simp only [history, returned]

/-- A run that fails changes nothing. -/
theorem step_run_failed
    {tables : Tables Number}
    (failed : writeSilver doubles sha2 tables = none) :
    (history doubles sha2).step tables .run = tables := by
  simp only [history, failed]

/-- No step loses bronze rows. -/
theorem step_keeps_bronze
    (tables : Tables Number)
    (event : Event Number)
    {row : BronzeRow Number}
    (member : row ∈ tables.bronze) :
    row ∈ ((history doubles sha2).step tables event).bronze := by
  cases event with
  | append rows => exact List.mem_append_left _ member
  | run =>
      cases returned : writeSilver doubles sha2 tables with
      | none =>
          rw [step_run_failed returned]
          exact member
      | some result =>
          obtain ⟨silver, _, sameResult⟩ := Option.bind_eq_some_iff.mp returned
          rw [step_run returned, ← Option.some.inj sameResult]
          exact member

/-- One step keeps the tables views of some of the bronze rows. -/
theorem viewed_step
    {tables : Tables Number}
    (event : Event Number)
    (valid : BronzeRows sha2 tables.bronze)
    (viewed : Viewed doubles sha2 tables) :
    Viewed doubles sha2 ((history doubles sha2).step tables event) := by
  cases event with
  | append rows =>
      obtain ⟨earlier, included, views⟩ := viewed
      exact ⟨earlier, fun row member => List.mem_append_left _ (included row member), views⟩
  | run =>
      obtain ⟨after, report, returned, _, upToDate⟩ := writeSilver_upToDate valid viewed
      rw [step_run returned]
      exact upToDate.viewed

/-- After any appends and runs the tables are views of some of the bronze rows. -/
theorem viewed_run
    (events : List (Event Number))
    (valid : BronzeRows sha2 ((history doubles sha2).run events).bronze) :
    Viewed doubles sha2 ((history doubles sha2).run events) := by
  induction events using List.reverseRecOn with
  | nil => exact viewed_initial
  | append_singleton events event inductionHypothesis =>
      rw [Machine.run_append] at valid ⊢
      have before : BronzeRows sha2 ((history doubles sha2).run events).bronze :=
        valid.subset fun row member => step_keeps_bronze _ event member
      exact viewed_step event before (inductionHypothesis before)

/-- The hours that bronze reads are whole minutes. -/
theorem transformSource_minutes
    {times : Times}
    (whole : forall text time, times.toTimestampMinutes text = some time -> 60000000 ∣ time)
    {frame : List (SourceDocument Number)}
    {row : BronzeRow Number}
    (member : row ∈ transformSource times frame)
    {time : Int}
    (observed : row.observedAt = some time) :
    60000000 ∣ time := by
  obtain ⟨document, _, isRow⟩ := mem_transformSource.mp member
  unfold explode at isRow
  split at isRow
  · exact absurd isRow List.not_mem_nil
  · obtain ⟨entry, _, rfl⟩ := List.mem_map.mp isRow
    obtain ⟨text, _, parses⟩ := Option.bind_eq_some_iff.mp observed
    exact whole text time parses

/-- What a run leaves after any appends and runs: views of all bronze rows, which a further
run does not change. -/
structure SilverCorrect
    (doubles : Doubles Number)
    (sha2 : Sha2 Number)
    (tables : Tables Number) : Prop where
  run : Exists fun after => Exists fun report =>
    writeSilver doubles sha2 tables = some (after, report) ∧ after.bronze = tables.bronze ∧
      UpToDate doubles sha2 after ∧
        Exists fun again => writeSilver doubles sha2 after = some (after, again)

/-! ## A correction of one hour -/

/-- The temperature of one hour, landed at the given time. -/
def temperatureAt (checksum : String) (ingestedAt temperature : Int) : BronzeRow Int where
  objectChecksum := some checksum
  source := some "open_meteo"
  ingestedAt := some ingestedAt
  locationName := some "moscow"
  latitude := some 55
  longitude := some 37
  observedAt := some 0
  temperature2m := some temperature
  relativeHumidity2m := some 60
  precipitation := some 0
  windSpeed10m := some 3

def wholeDegrees : Doubles Int where
  ofInt value := value
  lessEq left right := left ≤ right
  less left right := left < right

/-- The checksum of the object. -/
def checksumDigest : Sha2 Int
  | (_, .text checksum) :: _ => checksum
  | _ => ""

/-- An hour that fails, and its correction. -/
def correctedHour : List (BronzeRow Int) :=
  [temperatureAt "ab12" 6 200, temperatureAt "cd34" 7 20]

theorem bronzeRows_correctedHour : BronzeRows checksumDigest correctedHour := by
  have rows : forall {row : BronzeRow Int}, row ∈ correctedHour ->
      row = temperatureAt "ab12" 6 200 ∨ row = temperatureAt "cd34" 7 20 := by
    intro row member
    simpa [correctedHour] using member
  refine ⟨?_, ?_, ?_, ?_⟩
  · intro left isLeft right isRight _ sameKey
    rcases rows isLeft with rfl | rfl <;> rcases rows isRight with rfl | rfl <;>
      first | rfl | exact absurd sameKey (by decide)
  · intro row member time observed
    rcases rows member with rfl | rfl <;> obtain rfl := Option.some.inj observed <;> decide
  · intro left isLeft right _ keyless
    rcases rows isLeft with rfl | rfl <;> exact absurd keyless (by decide)
  · intro left isLeft right isRight sameDigest
    rcases rows isLeft with rfl | rfl <;> rcases rows isRight with rfl | rfl <;>
      first | rfl | exact absurd sameDigest (by decide)

end SilverWeather
end Spark
end LakehouseOps
