import LakehouseOps.Library.CodePoints

/-!
# String literals of SQL

A literal between single quotes, as an engine reads it that takes a backslash for an escape:
the backslash escapes the character after it, a doubled quote or another literal next to it
continues the literal, and the first other quote ends it. Whether a doubled quote stands for
a quote depends on the engine, and so do the escapes.
-/

namespace LakehouseOps
namespace Library
namespace SqlLiteral

/-- Characters between tokens. -/
def isSpace (point : CodePoint) : Bool :=
  point ∈ text " \t\r\n"

/-- How an engine reads literals. -/
structure LiteralRules where
  /-- What a backslash and the character stand for. -/
  escape : CodePoint -> CodePoint
  /-- The characters before which a backslash stands for itself. -/
  keeps : CodePoint -> Bool
  /-- Whether a doubled quote stands for a quote. -/
  doubledStays : Bool
  escape_space : forall point, isSpace point = true ->
    escape point ≠ char '\'' ∧ escape point ≠ char '\\'
  keeps_plain : forall point, keeps point = true -> point ≠ char '\'' ∧ point ≠ char '\\'

/-- Where the reader is: in a literal, behind a backslash, or behind a quote, which may be
the last character that was read. -/
inductive LiteralMode
  | inside
  | escaped
  | closed (direct : Bool)

variable (rules : LiteralRules)

/-- What an escaped character stands for. -/
def LiteralRules.escaped (point : CodePoint) : Text :=
  if rules.keeps point then [char '\\', point] else [rules.escape point]

/-- What a quote behind the end of a literal stands for. -/
def LiteralRules.continued (direct : Bool) : Text :=
  if direct && rules.doubledStays then [char '\''] else []

/-- The value of a literal, and what follows it and the spaces behind it. -/
def readLiteral : LiteralMode -> Text -> Option (Text × Text)
  | .inside, [] => none
  | .inside, point :: rest =>
      if point = char '\\' then readLiteral .escaped rest
      else if point = char '\'' then readLiteral (.closed true) rest
      else (readLiteral .inside rest).map fun read => (point :: read.1, read.2)
  | .escaped, [] => none
  | .escaped, point :: rest =>
      (readLiteral .inside rest).map fun read => (rules.escaped point ++ read.1, read.2)
  | .closed _, [] => some ([], [])
  | .closed direct, point :: rest =>
      if point = char '\'' then
        (readLiteral .inside rest).map fun read => (rules.continued direct ++ read.1, read.2)
      else if isSpace point then readLiteral (.closed false) rest
      else some ([], point :: rest)

/-- `points.replace(mark, mark + mark)` -/
def doubled (mark : CodePoint) (points : Text) : Text :=
  points.flatMap fun point => if point = mark then [mark, mark] else [point]

/-! ## Literals that are read back -/

/-- Every backslash stands before a character that keeps it. -/
def Unescaped : Text -> Prop
  | [] => True
  | point :: rest =>
      (point = char '\\' -> rest.head?.any rules.keeps = true) ∧ Unescaped rest

instance instDecidableUnescaped : (points : Text) -> Decidable (Unescaped rules points)
  | [] => isTrue trivial
  | point :: rest =>
      have := instDecidableUnescaped rest
      inferInstanceAs (Decidable ((point = char '\\' -> rest.head?.any rules.keeps = true) ∧
        Unescaped rules rest))

/-- The value of a literal with doubled quotes and without escapes. -/
def denoted (points : Text) : Text :=
  if rules.doubledStays then points else points.filter fun point => point ≠ char '\''

theorem denoted_cons {point : CodePoint} {rest : Text} (plain : point ≠ char '\'') :
    denoted rules (point :: rest) = point :: denoted rules rest := by
  unfold denoted
  split
  · rfl
  · exact List.filter_cons_of_pos (decide_eq_true plain)

theorem denoted_quote (rest : Text) :
    denoted rules (char '\'' :: rest) = rules.continued true ++ denoted rules rest := by
  unfold denoted LiteralRules.continued
  cases rules.doubledStays with
  | true => rfl
  | false => simp

theorem doubled_cons (mark point : CodePoint) (rest : Text) :
    doubled mark (point :: rest) =
      (if point = mark then [mark, mark] else [point]) ++ doubled mark rest :=
  List.flatMap_cons

/-- A literal is closed before a character that is no space and no quote. -/
theorem readLiteral_closed
    {direct : Bool}
    {next : CodePoint}
    (rest : Text)
    (noQuote : next ≠ char '\'')
    (noSpace : isSpace next = false) :
    readLiteral rules (.closed direct) (next :: rest) = some ([], next :: rest) := by
  rw [readLiteral, if_neg noQuote, if_neg (by rw [noSpace]; exact Bool.false_ne_true)]

/-- A literal with doubled quotes is read back where its last quote ends it. The second part
is the literal behind a backslash that stays. -/
theorem readLiteral_doubled_aux
    {rest after : Text}
    (closes : readLiteral rules (.closed true) rest = some ([], after))
    (points : Text)
    (unescaped : Unescaped rules points) :
    readLiteral rules .inside (doubled (char '\'') points ++ char '\'' :: rest) =
        some (denoted rules points, after) ∧
      (points.head?.any rules.keeps = true ->
        readLiteral rules .escaped (doubled (char '\'') points ++ char '\'' :: rest) =
          some (char '\\' :: denoted rules points, after)) := by
  have noSlash : char '\'' ≠ char '\\' := by decide
  induction points with
  | nil =>
      refine ⟨?_, fun keeps => absurd keeps Bool.false_ne_true⟩
      rw [doubled, List.flatMap_nil, List.nil_append, readLiteral, if_neg noSlash, if_pos rfl,
        closes]
      cases stays : rules.doubledStays <;> simp [denoted, stays]
  | cons point points inductionHypothesis =>
      obtain ⟨inside, escaped⟩ := inductionHypothesis unescaped.2
      constructor
      · rw [doubled_cons, List.append_assoc]
        by_cases isQuote : point = char '\''
        · rw [isQuote, if_pos rfl, List.cons_append, readLiteral, if_neg noSlash, if_pos rfl,
            List.singleton_append, readLiteral, if_pos rfl, inside, denoted_quote]
          rfl
        · rw [if_neg isQuote, List.singleton_append, readLiteral, if_neg isQuote,
            denoted_cons rules isQuote]
          by_cases isSlash : point = char '\\'
          · rw [if_pos isSlash, escaped (unescaped.1 isSlash), isSlash]
          · rw [if_neg isSlash, inside]
            rfl
      · intro keeps
        have plain := rules.keeps_plain point keeps
        rw [doubled_cons, if_neg plain.1, List.append_assoc, List.singleton_append, readLiteral,
          inside, denoted_cons rules plain.1]
        exact congrArg (fun value => some (value ++ denoted rules points, after)) (if_pos keeps)

theorem readLiteral_doubled
    {rest after points : Text}
    (closes : readLiteral rules (.closed true) rest = some ([], after))
    (unescaped : Unescaped rules points) :
    readLiteral rules .inside (doubled (char '\'') points ++ char '\'' :: rest) =
      some (denoted rules points, after) :=
  (readLiteral_doubled_aux rules closes points unescaped).1

theorem doubled_eq_self
    {mark : CodePoint}
    {points : Text}
    (absent : mark ∉ points) :
    doubled mark points = points := by
  induction points with
  | nil => rfl
  | cons point points inductionHypothesis =>
      obtain ⟨differs, absent⟩ := not_or.mp (mt List.mem_cons.mpr absent)
      rw [doubled_cons, if_neg (Ne.symm differs), inductionHypothesis absent]
      rfl

theorem unescaped_of_not_mem {points : Text} (absent : char '\\' ∉ points) :
    Unescaped rules points := by
  induction points with
  | nil => trivial
  | cons point points inductionHypothesis =>
      obtain ⟨differs, absent⟩ := not_or.mp (mt List.mem_cons.mpr absent)
      exact ⟨fun isSlash => absurd isSlash.symm differs, inductionHypothesis absent⟩

/-! ## What a value costs -/

/-- The number of characters that are no spaces. -/
def weight (points : Text) : Nat :=
  points.countP fun point => !isSpace point

/-- How many characters that are no spaces a literal needs for a value. -/
def cost : Text -> Nat
  | [] => 0
  | point :: rest =>
      (if point = char '\\' then if rest.head?.any rules.keeps then 1 else 2
        else if point = char '\'' then 2
        else if isSpace point then 0 else 1) + cost rest

theorem weight_cons (point : CodePoint) (rest : Text) :
    weight (point :: rest) = (if isSpace point then 0 else 1) + weight rest := by
  rw [weight, List.countP_cons, Nat.add_comm]
  cases isSpace point <;> rfl

theorem weight_append (left right : Text) : weight (left ++ right) = weight left + weight right :=
  List.countP_append

theorem cost_plain
    {point : CodePoint}
    (rest : Text)
    (noSlash : point ≠ char '\\')
    (noQuote : point ≠ char '\'') :
    cost rules (point :: rest) = (if isSpace point then 0 else 1) + cost rules rest := by
  rw [cost, if_neg noSlash, if_neg noQuote]

theorem cost_cons_le (point : CodePoint) (rest : Text) :
    cost rules (point :: rest) ≤ 2 + cost rules rest := by
  rw [cost]
  split
  · split <;> omega
  · split
    · omega
    · split <;> omega

/-- An escape costs no more than its two characters. -/
theorem cost_escaped_le (point : CodePoint) (rest : Text) :
    cost rules (rules.escaped point ++ rest) ≤ 1 + (if isSpace point then 0 else 1) +
      cost rules rest := by
  unfold LiteralRules.escaped
  split
  · next keeps =>
      have plain := rules.keeps_plain point keeps
      have head : (((point :: rest) : Text).head?.any rules.keeps) = true := keeps
      rw [List.cons_append, List.singleton_append, cost, if_pos rfl, if_pos head,
        cost_plain rules rest plain.2 plain.1]
      omega
  · rw [List.singleton_append]
    by_cases space : isSpace point = true
    · have plain := rules.escape_space point space
      rw [cost_plain rules rest plain.2 plain.1, if_pos space]
      split <;> omega
    · have atMost := cost_cons_le rules (rules.escape point) rest
      rw [if_neg space]
      omega

theorem cost_continued_le (direct : Bool) (rest : Text) :
    cost rules (rules.continued direct ++ rest) ≤ 2 + cost rules rest := by
  unfold LiteralRules.continued
  split
  · exact cost_cons_le rules _ rest
  · exact Nat.le_add_left _ _

/-- The quote that a literal has not been closed with yet. -/
def LiteralMode.open : LiteralMode -> Nat
  | .inside => 1
  | _ => 0

/-- What is read of a literal is at least what its value costs. -/
theorem cost_readLiteral
    {mode : LiteralMode}
    {points value rest : Text}
    (read : readLiteral rules mode points = some (value, rest)) :
    cost rules value + mode.open + weight rest ≤ weight points := by
  induction points generalizing mode value rest with
  | nil =>
      cases mode with
      | inside => cases read
      | escaped => cases read
      | closed direct =>
          obtain ⟨rfl, rfl⟩ := Prod.mk.inj (Option.some.inj read)
          exact Nat.le_refl _
  | cons point points inductionHypothesis =>
      have quoteWeight : isSpace (char '\'') = false := by decide
      have slashWeight : isSpace (char '\\') = false := by decide
      rw [weight_cons]
      cases mode with
      | inside =>
          rw [readLiteral] at read
          split at read
          · next isSlash =>
              have later := inductionHypothesis read
              rw [isSlash, slashWeight]
              simp only [LiteralMode.open, Bool.false_eq_true, if_false] at later ⊢
              omega
          · next noSlash =>
              split at read
              · next isQuote =>
                  have later := inductionHypothesis read
                  rw [isQuote, quoteWeight]
                  simp only [LiteralMode.open, Bool.false_eq_true, if_false] at later ⊢
                  omega
              · next noQuote =>
                  obtain ⟨⟨inner, after⟩, isInner, same⟩ := Option.map_eq_some_iff.mp read
                  obtain ⟨rfl, rfl⟩ := Prod.mk.inj same
                  have later := inductionHypothesis isInner
                  rw [cost_plain rules inner noSlash noQuote]
                  dsimp only
                  omega
      | escaped =>
          rw [readLiteral] at read
          obtain ⟨⟨inner, after⟩, isInner, same⟩ := Option.map_eq_some_iff.mp read
          obtain ⟨rfl, rfl⟩ := Prod.mk.inj same
          have later := inductionHypothesis isInner
          have atMost := cost_escaped_le rules point inner
          simp only [LiteralMode.open] at later ⊢
          omega
      | closed direct =>
          rw [readLiteral] at read
          split at read
          · next isQuote =>
              obtain ⟨⟨inner, after⟩, isInner, same⟩ := Option.map_eq_some_iff.mp read
              obtain ⟨rfl, rfl⟩ := Prod.mk.inj same
              have later := inductionHypothesis isInner
              have atMost := cost_continued_le rules direct inner
              rw [isQuote, quoteWeight]
              simp only [LiteralMode.open, Bool.false_eq_true, if_false] at later ⊢
              omega
          · split at read
            · have later := inductionHypothesis read
              simp only [LiteralMode.open] at later ⊢
              omega
            · obtain ⟨rfl, rfl⟩ := Prod.mk.inj (Option.some.inj read)
              rw [weight_cons]
              exact Nat.le_of_eq (Nat.zero_add _)

/-- A text with doubled quotes costs its characters, and more where a backslash escapes. -/
theorem weight_doubled (points : Text) :
    weight (doubled (char '\'') points) ≤ cost rules points ∧
      (weight (doubled (char '\'') points) = cost rules points -> Unescaped rules points) := by
  induction points with
  | nil => exact ⟨Nat.le_refl _, fun _ => trivial⟩
  | cons point points inductionHypothesis =>
      obtain ⟨atMost, exactly⟩ := inductionHypothesis
      rw [doubled_cons, weight_append]
      by_cases isQuote : point = char '\''
      · have pair : weight [char '\'', char '\''] = 2 := by decide
        have price : cost rules (point :: points) = 2 + cost rules points := by
          rw [cost, isQuote, if_neg (by decide), if_pos rfl]
        rw [if_pos isQuote, pair, price]
        refine ⟨by omega, fun same => ⟨fun isSlash => ?_, exactly (by omega)⟩⟩
        exact absurd (isQuote.symm.trans isSlash) (by decide)
      · rw [if_neg isQuote]
        by_cases isSlash : point = char '\\'
        · have single : weight [point] = 1 := by rw [isSlash]; decide
          have price : cost rules (point :: points) =
              (if points.head?.any rules.keeps then 1 else 2) + cost rules points := by
            rw [cost, if_pos isSlash]
          rw [single, price]
          by_cases kept : points.head?.any rules.keeps = true
          · rw [if_pos kept]
            exact ⟨by omega, fun same => ⟨fun _ => kept, exactly (by omega)⟩⟩
          · rw [if_neg kept]
            exact ⟨by omega, fun same => by omega⟩
        · rw [cost_plain rules points isSlash isQuote, weight_cons]
          have none : weight [] = 0 := rfl
          exact ⟨by omega, fun same => ⟨fun slash => absurd slash isSlash, exactly (by omega)⟩⟩

end SqlLiteral
end Library
end LakehouseOps
