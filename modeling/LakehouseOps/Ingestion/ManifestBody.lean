import LakehouseOps.Library.Loop
import LakehouseOps.Ingestion.CommerceBatches

/-!
# The body of a manifest

The loop that reads the body of a manifest, at most one byte over the limit, and closes it.
-/

namespace LakehouseOps
namespace Ingestion
namespace ManifestBody

open Library

variable {Problem : Type}

/-- `MAX_COMMERCE_MANIFEST_BYTES` -/
def maxCommerceManifestBytes : Nat := 1024 * 1024

abbrev Bytes := List UInt8

/-- What is asked of the body of a response. -/
inductive BodyCall
  | read (size : Int)
  | close
  deriving DecidableEq

/-- What a call returns, or what it raises; nothing is returned by `close`. -/
abbrev BodyAnswer (Problem : Type) := Except Problem Bytes

/-- What `_read_manifest` raises while it reads the body. -/
inductive ReadError (Problem : Type)
  | raised (problem : Problem)
  | batch (error : CommerceBatchError)

/-- Where the code is: in the loop, in the `finally` clause, or behind it. -/
inductive BodyState (Problem : Type)
  | reading (chunks : List Bytes) (remaining : Int)
  | closing (outcome : Except Problem Bytes)
  | closed (outcome : Except Problem Bytes)

/-- `while remaining`; the chunks are joined when the loop is left. -/
def continueReading (chunks : List Bytes) (remaining : Int) : BodyState Problem :=
  if remaining = 0 then .closing (.ok chunks.flatten) else .reading chunks remaining

/-- The state in which the code enters the loop. -/
def startReading : BodyState Problem :=
  continueReading [] (maxCommerceManifestBytes + 1)

/-- The loop after a read. -/
def afterRead (chunks : List Bytes) (remaining : Int) : BodyAnswer Problem -> BodyState Problem
  | .ok [] => .closing (.ok chunks.flatten)
  | .ok (byte :: bytes) =>
      continueReading (chunks ++ [byte :: bytes]) (remaining - (byte :: bytes).length)
  | .error problem => .closing (.error problem)

/-- The `finally` clause: what it raises takes the place of what happened before. -/
def afterClose (outcome : Except Problem Bytes) : BodyAnswer Problem -> BodyState Problem
  | .ok _ => .closed outcome
  | .error problem => .closed (.error problem)

/-- The check of the size, behind the loop. -/
def checkSize (key : String) : Except Problem Bytes -> Except (ReadError Problem) Bytes
  | .error problem => .error (.raised problem)
  | .ok body =>
      if maxCommerceManifestBytes < body.length then
        .error (.batch ⟨s!"commerce manifest exceeds 1 MiB: {key}"⟩)
      else .ok body

/-- The part of `_read_manifest` that reads the body. -/
def readBody (key : String) :
    Loop (BodyState Problem) BodyCall (BodyAnswer Problem) (Except (ReadError Problem) Bytes) where
  turn
    | .reading chunks remaining => .ask (.read remaining) (afterRead chunks remaining)
    | .closing outcome => .ask .close (afterClose outcome)
    | .closed outcome => .stop (checkSize key outcome)

/-- The body of an object, by what it has not returned yet: a read returns at most as much as
is wanted, and nothing only at the end; every call may raise. -/
inductive Serves : Bytes -> BodyCall -> BodyAnswer Problem -> Bytes -> Prop
  | chunk {size : Int} {bytes rest : Bytes}
      (fits : bytes.length ≤ size)
      (ends : bytes = [] -> rest = []) :
      Serves (bytes ++ rest) (.read size) (.ok bytes) rest
  | raise {size : Int} {left : Bytes} (problem : Problem) :
      Serves left (.read size) (.error problem) left
  | close {left : Bytes} (answer : BodyAnswer Problem) :
      Serves left .close answer left

/-- The bytes that the reads of a run have returned. -/
def obtained (exchanges : Exchanges BodyCall (BodyAnswer Problem)) : Bytes :=
  exchanges.flatMap fun exchange =>
    match exchange with
    | (.read _, .ok bytes) => bytes
    | _ => []

theorem obtained_append (before after : Exchanges BodyCall (BodyAnswer Problem)) :
    obtained (before ++ after) = obtained before ++ obtained after :=
  List.flatMap_append

/-- The body is closed, once and at the end. -/
def ClosedOnce (exchanges : Exchanges BodyCall (BodyAnswer Problem)) : Prop :=
  Exists fun reads => Exists fun answer =>
    exchanges = reads ++ [(.close, answer)] ∧ forall read, read ∈ reads -> read.1 ≠ .close

/-- Some call has raised. -/
def Raised (exchanges : Exchanges BodyCall (BodyAnswer Problem)) : Prop :=
  Exists fun call => Exists fun problem => (call, .error problem) ∈ exchanges

/-- The bytes of the object are those that are read and those that are left, and reading goes
on below the limit only. -/
structure ReadSoFar
    (content : Bytes)
    (exchanges : Exchanges BodyCall (BodyAnswer Problem))
    (body left : Bytes) : Prop where
  whole : body ++ left = content
  obtained : obtained exchanges = body
  bounded : body.length ≤ maxCommerceManifestBytes + 1
  notClosed : forall exchange, exchange ∈ exchanges -> exchange.1 ≠ .close

/-- What holds after every exchange. -/
def Invariant
    (content : Bytes)
    (exchanges : Exchanges BodyCall (BodyAnswer Problem))
    (state : BodyState Problem)
    (left : Bytes) : Prop :=
  match state with
  | .reading chunks remaining =>
      ReadSoFar content exchanges chunks.flatten left ∧ ¬Raised exchanges ∧
        remaining = maxCommerceManifestBytes + 1 - chunks.flatten.length ∧ remaining ≠ 0
  | .closing (.ok body) =>
      ReadSoFar content exchanges body left ∧ ¬Raised exchanges ∧
        (left = [] ∨ body.length = maxCommerceManifestBytes + 1)
  | .closing (.error _) =>
      (Exists fun body => ReadSoFar content exchanges body left) ∧ Raised exchanges
  | .closed outcome =>
      ClosedOnce exchanges ∧ (obtained exchanges).length ≤ maxCommerceManifestBytes + 1 ∧
        match outcome with
        | .ok body => ¬Raised exchanges ∧ body ++ left = content ∧
            (left = [] ∨ body.length = maxCommerceManifestBytes + 1)
        | .error _ => Raised exchanges

theorem raised_append
    {before : Exchanges BodyCall (BodyAnswer Problem)}
    {call : BodyCall}
    {answer : BodyAnswer Problem} :
    Raised (before ++ [(call, answer)]) ↔
      Raised before ∨ Exists fun problem => answer = .error problem := by
  constructor
  · rintro ⟨other, problem, member⟩
    rcases List.mem_append.mp member with earlier | last
    · exact .inl ⟨other, problem, earlier⟩
    · exact .inr ⟨problem, (Prod.mk.inj (List.mem_singleton.mp last)).2.symm⟩
  · rintro (⟨other, problem, earlier⟩ | ⟨problem, rfl⟩)
    · exact ⟨other, problem, List.mem_append_left _ earlier⟩
    · exact ⟨call, problem, List.mem_append_right _ List.mem_cons_self⟩

theorem ReadSoFar.read
    {content body left rest : Bytes}
    {exchanges : Exchanges BodyCall (BodyAnswer Problem)}
    {bytes : Bytes}
    (before : ReadSoFar content exchanges body left)
    (size : Int)
    (isLeft : left = bytes ++ rest)
    (fits : body.length + bytes.length ≤ maxCommerceManifestBytes + 1) :
    ReadSoFar content (exchanges ++ [(.read size, .ok bytes)]) (body ++ bytes) rest where
  whole := by rw [List.append_assoc, ← isLeft, before.whole]
  obtained := by rw [obtained_append, before.obtained]; exact congrArg _ (List.append_nil bytes)
  bounded := by rw [List.length_append]; exact fits
  notClosed := by
    intro exchange member
    rcases List.mem_append.mp member with earlier | last
    · exact before.notClosed exchange earlier
    · rw [List.mem_singleton.mp last]
      exact BodyCall.noConfusion

theorem ReadSoFar.raise
    {content body left : Bytes}
    {exchanges : Exchanges BodyCall (BodyAnswer Problem)}
    {size : Int}
    {problem : Problem}
    (before : ReadSoFar content exchanges body left) :
    ReadSoFar content (exchanges ++ [(.read size, .error problem)]) body left where
  whole := before.whole
  obtained := by rw [obtained_append, before.obtained]; exact List.append_nil body
  bounded := before.bounded
  notClosed := by
    intro exchange member
    rcases List.mem_append.mp member with earlier | last
    · exact before.notClosed exchange earlier
    · rw [List.mem_singleton.mp last]
      exact BodyCall.noConfusion

/-- The invariant where the loop goes on after a read, or is left. -/
theorem invariant_continueReading
    {content left : Bytes}
    {exchanges : Exchanges BodyCall (BodyAnswer Problem)}
    {chunks : List Bytes}
    {remaining : Int}
    (soFar : ReadSoFar content exchanges chunks.flatten left)
    (noRaise : ¬Raised exchanges)
    (isRemaining : remaining = maxCommerceManifestBytes + 1 - chunks.flatten.length) :
    Invariant content exchanges (continueReading chunks remaining) left := by
  unfold continueReading
  by_cases full : remaining = 0
  · rw [if_pos full]
    exact ⟨soFar, noRaise, .inr (by omega)⟩
  · rw [if_neg full]
    exact ⟨soFar, noRaise, isRemaining, full⟩

/-- The invariant after a read. -/
theorem invariant_afterRead
    {content left rest : Bytes}
    {exchanges : Exchanges BodyCall (BodyAnswer Problem)}
    {chunks : List Bytes}
    {remaining : Int}
    {answer : BodyAnswer Problem}
    (holds : Invariant content exchanges (.reading chunks remaining) left)
    (served : Serves left (.read remaining) answer rest) :
    Invariant content (exchanges ++ [(.read remaining, answer)])
      (afterRead chunks remaining answer) rest := by
  obtain ⟨soFar, noRaise, isRemaining, _⟩ := holds
  have bounded := soFar.bounded
  cases served with
  | raise problem =>
      exact ⟨⟨_, soFar.raise⟩, raised_append.mpr (.inr ⟨problem, rfl⟩)⟩
  | @chunk _ bytes rest fits ends =>
      have read := soFar.read remaining rfl (by omega)
      have stillNone : ¬Raised (exchanges ++ [(BodyCall.read remaining, .ok bytes)]) := by
        rw [raised_append]
        rintro (earlier | ⟨problem, raised⟩)
        · exact noRaise earlier
        · cases raised
      cases bytes with
      | nil =>
          rw [List.append_nil] at read
          exact ⟨read, stillNone, .inl (ends rfl)⟩
      | cons byte bytes =>
          refine invariant_continueReading ?_ stillNone ?_
          · rw [List.flatten_append, List.flatten_singleton]
            exact read
          · rw [List.flatten_append, List.flatten_singleton, List.length_append]
            omega

/-- The invariant after the body is closed. -/
theorem invariant_afterClose
    {content left : Bytes}
    {exchanges : Exchanges BodyCall (BodyAnswer Problem)}
    {outcome : Except Problem Bytes}
    {answer : BodyAnswer Problem}
    (holds : Invariant content exchanges (.closing outcome) left) :
    Invariant content (exchanges ++ [(.close, answer)]) (afterClose outcome answer) left := by
  have closes : forall body, ReadSoFar content exchanges body left ->
      ClosedOnce (exchanges ++ [(.close, answer)]) ∧
        (obtained (exchanges ++ [(BodyCall.close, answer)])).length ≤
          maxCommerceManifestBytes + 1 := by
    intro body soFar
    refine ⟨⟨exchanges, answer, rfl, soFar.notClosed⟩, ?_⟩
    rw [obtained_append, soFar.obtained]
    exact (congrArg List.length (List.append_nil body)).trans_le soFar.bounded
  cases answer with
  | error problem =>
      have raises : Raised (exchanges ++ [(BodyCall.close, .error problem)]) :=
        raised_append.mpr (.inr ⟨problem, rfl⟩)
      cases outcome with
      | error other =>
          obtain ⟨⟨body, soFar⟩, _⟩ := holds
          exact ⟨(closes body soFar).1, (closes body soFar).2, raises⟩
      | ok body => exact ⟨(closes body holds.1).1, (closes body holds.1).2, raises⟩
  | ok nothing =>
      cases outcome with
      | error other =>
          obtain ⟨⟨body, soFar⟩, raised⟩ := holds
          exact ⟨(closes body soFar).1, (closes body soFar).2, raised_append.mpr (.inl raised)⟩
      | ok body =>
          obtain ⟨soFar, noRaise, ends⟩ := holds
          refine ⟨(closes body soFar).1, (closes body soFar).2, ?_, soFar.whole, ends⟩
          rw [raised_append]
          rintro (earlier | ⟨problem, raised⟩)
          · exact noRaise earlier
          · cases raised

theorem invariant_step
    {content left later : Bytes}
    {exchanges : Exchanges BodyCall (BodyAnswer Problem)}
    {state : BodyState Problem}
    {call : BodyCall}
    {answer : BodyAnswer Problem}
    {next : BodyAnswer Problem -> BodyState Problem}
    {key : String}
    (holds : Invariant content exchanges state left)
    (asks : (readBody key).turn state = .ask call next)
    (served : Serves left call answer later) :
    Invariant content (exchanges ++ [(call, answer)]) (next answer) later := by
  cases state with
  | reading chunks remaining =>
      obtain ⟨rfl, rfl⟩ := Turn.ask.inj asks
      exact invariant_afterRead holds served
  | closing outcome =>
      obtain ⟨rfl, rfl⟩ := Turn.ask.inj asks
      cases served with
      | close => exact invariant_afterClose holds
  | closed outcome => cases asks

theorem invariant_startReading (content : Bytes) :
    Invariant content [] (startReading : BodyState Problem) content := by
  refine invariant_continueReading ⟨rfl, rfl, Nat.zero_le _, List.forall_mem_nil _⟩ ?_ rfl
  rintro ⟨_, _, member⟩
  exact absurd member List.not_mem_nil

/-- The bytes that were obtained are within the bound. -/
theorem Invariant.bounded
    {content left : Bytes}
    {exchanges : Exchanges BodyCall (BodyAnswer Problem)}
    {state : BodyState Problem}
    (holds : Invariant content exchanges state left) :
    (obtained exchanges).length ≤ maxCommerceManifestBytes + 1 := by
  have reading : forall body, ReadSoFar content exchanges body left ->
      (obtained exchanges).length ≤ maxCommerceManifestBytes + 1 := by
    intro body soFar
    rw [soFar.obtained]
    exact soFar.bounded
  cases state with
  | reading chunks remaining => exact reading _ holds.1
  | closing outcome =>
      cases outcome with
      | error problem => exact holds.1.elim reading
      | ok body => exact reading body holds.1
  | closed outcome => exact holds.2.1

/-- How many calls are still to come, at most. -/
def callsLeft : BodyState Problem -> Nat
  | .reading _ remaining => remaining.toNat + 1
  | .closing _ => 1
  | .closed _ => 0

theorem callsLeft_continueReading
    (chunks : List Bytes)
    (remaining : Int) :
    callsLeft (continueReading chunks remaining : BodyState Problem) ≤ remaining.toNat + 1 := by
  unfold continueReading
  split
  · exact Nat.le_add_left 1 _
  · exact Nat.le_refl _

/-- Every call brings the end nearer. -/
theorem callsLeft_lt
    {content left later : Bytes}
    {exchanges : Exchanges BodyCall (BodyAnswer Problem)}
    {state : BodyState Problem}
    {call : BodyCall}
    {answer : BodyAnswer Problem}
    {next : BodyAnswer Problem -> BodyState Problem}
    {key : String}
    (holds : Invariant content exchanges state left)
    (asks : (readBody key).turn state = .ask call next)
    (served : Serves left call answer later) :
    callsLeft (next answer) < callsLeft state := by
  cases state with
  | closed outcome => cases asks
  | closing outcome =>
      obtain ⟨rfl, rfl⟩ := Turn.ask.inj asks
      cases answer <;> exact Nat.zero_lt_one
  | reading chunks remaining =>
      obtain ⟨rfl, rfl⟩ := Turn.ask.inj asks
      obtain ⟨soFar, _, isRemaining, notZero⟩ := holds
      have bounded := soFar.bounded
      cases served with
      | raise problem => exact Nat.succ_lt_succ (by omega)
      | @chunk _ bytes _ fits _ =>
          cases bytes with
          | nil => exact Nat.succ_lt_succ (by omega)
          | cons byte bytes =>
              refine Nat.lt_of_le_of_lt (callsLeft_continueReading _ _) (Nat.succ_lt_succ ?_)
              rw [List.length_cons] at fits ⊢
              omega

/-- What was read is the object, or is one byte over the limit. -/
theorem checkSize_whole
    {content body left : Bytes}
    {key : String}
    (whole : body ++ left = content)
    (ends : left = [] ∨ body.length = maxCommerceManifestBytes + 1) :
    checkSize key (.ok body : Except Problem Bytes) =
      if content.length ≤ maxCommerceManifestBytes then .ok content
      else .error (.batch ⟨s!"commerce manifest exceeds 1 MiB: {key}"⟩) := by
  have length := congrArg List.length whole
  rw [List.length_append] at length
  rw [checkSize]
  rcases ends with rfl | full
  · rw [List.append_nil] at whole
    rw [whole]
    by_cases small : content.length ≤ maxCommerceManifestBytes
    · rw [if_pos small, if_neg (Nat.not_lt.mpr small)]
    · rw [if_neg small, if_pos (Nat.lt_of_not_le small)]
  · rw [if_pos (by omega), if_neg (by omega)]

/-- What is known of the reading of a manifest's body. -/
structure BoundedRead
    (content : Bytes)
    (key : String)
    (exchanges : Exchanges BodyCall (BodyAnswer Problem))
    (state : BodyState Problem) : Prop where
  /-- A run makes a bounded number of calls, so it ends. -/
  ends : exchanges.length ≤ maxCommerceManifestBytes + 2
  bounded : (obtained exchanges).length ≤ maxCommerceManifestBytes + 1
  closed : forall result, (readBody key).turn state = .stop result -> ClosedOnce exchanges
  /-- Where no call raises, the object is returned as it is, or rejected for its size. -/
  whole : forall result, (readBody key).turn state = .stop result -> ¬Raised exchanges ->
    result = if content.length ≤ maxCommerceManifestBytes then .ok content
      else .error (.batch ⟨s!"commerce manifest exceeds 1 MiB: {key}"⟩)
  raised : forall result, (readBody key).turn state = .stop result -> Raised exchanges ->
    Exists fun problem => result = .error (.raised problem)

/-- The body of a manifest is read within the limit and closed, whatever the chunks are. -/
theorem manifest_read_bounded
    {content left : Bytes}
    {key : String}
    {exchanges : Exchanges BodyCall (BodyAnswer Problem)}
    {state : BodyState Problem}
    (runs : Loop.Runs (readBody key) Serves startReading content exchanges state left) :
    BoundedRead content key exchanges state := by
  have holds : Invariant content exchanges state left :=
    runs.preserves (fun _ _ _ _ _ _ _ holds asks served => invariant_step holds asks served)
      (invariant_startReading content)
  have counted : exchanges.length + callsLeft state ≤ callsLeft startReading :=
    runs.bounded (fun state left => Exists fun before => Invariant content before state left)
      (fun state _ => callsLeft state)
      (fun _ _ _ _ _ _ earlier asks served =>
        let ⟨_, holds⟩ := earlier
        ⟨⟨_, invariant_step holds asks served⟩, callsLeft_lt holds asks served⟩)
      ⟨[], invariant_startReading content⟩
  have started : callsLeft (startReading : BodyState Problem) = maxCommerceManifestBytes + 2 := rfl
  have ends : forall result, (readBody key).turn state = .stop result ->
      Exists fun outcome => state = .closed outcome ∧ result = checkSize key outcome := by
    intro result stops
    cases state with
    | reading chunks remaining => cases stops
    | closing outcome => cases stops
    | closed outcome => exact ⟨outcome, rfl, (Turn.stop.inj stops).symm⟩
  refine ⟨by omega, holds.bounded, ?_, ?_, ?_⟩
  · intro result stops
    obtain ⟨outcome, rfl, _⟩ := ends result stops
    exact holds.1
  · intro result stops noRaise
    obtain ⟨outcome, rfl, rfl⟩ := ends result stops
    obtain ⟨_, _, holds⟩ := holds
    cases outcome with
    | error problem => exact absurd holds noRaise
    | ok body => exact checkSize_whole holds.2.1 holds.2.2
  · intro result stops raises
    obtain ⟨outcome, rfl, rfl⟩ := ends result stops
    obtain ⟨_, _, holds⟩ := holds
    cases outcome with
    | error problem => exact ⟨problem, rfl⟩
    | ok body => exact absurd raises holds.1

/-- Two bytes, read one by one. -/
def sampleExchanges : Exchanges BodyCall (BodyAnswer String) :=
  [(.read 1048577, .ok [7]), (.read 1048576, .ok [8]), (.read 1048575, .ok []), (.close, .ok [])]

theorem sample_runs :
    Loop.Runs (readBody "manifest.json") Serves startReading [7, 8] sampleExchanges
      (.closed (.ok [7, 8])) [] := by
  have first : Serves ([7] ++ [8]) (.read 1048577) (.ok [7] : BodyAnswer String) [8] :=
    .chunk (by decide) (by decide)
  have second : Serves ([8] ++ []) (.read 1048576) (.ok [8] : BodyAnswer String) [] :=
    .chunk (by decide) (by decide)
  have last : Serves ([] ++ []) (.read 1048575) (.ok [] : BodyAnswer String) [] :=
    .chunk (by decide) (by decide)
  exact .ask rfl first (.ask rfl second (.ask rfl last (.ask rfl (.close (.ok [])) (.refl _ _))))

theorem sample_read_bounded :
    BoundedRead [7, 8] "manifest.json" sampleExchanges (.closed (.ok [7, 8])) :=
  manifest_read_bounded sample_runs

end ManifestBody
end Ingestion
end LakehouseOps
