import LakehouseOps.Library.JsonLimits

/-!
# Strings in ASCII

A string that is written with escapes for all characters outside ASCII is read back,
unless the halves of a surrogate pair are next to each other in it. They never are in a
string that is read from a text without surrogates.
-/

namespace LakehouseOps
namespace Library

/-! ## Escapes -/

/-- The escape of a code below `0x10000`. -/
def unicodeEscape (code : Nat) : Text :=
  [char '\\', char 'u', hexDigit (code / 4096), hexDigit (code / 256 % 16),
    hexDigit (code / 16 % 16), hexDigit (code % 16)]

/-- The first half of the pair of a point from `0x10000`. -/
def highSurrogate (point : CodePoint) : Nat :=
  0xd800 + (point.val - 0x10000) / 1024

/-- The second half. -/
def lowSurrogate (point : CodePoint) : Nat :=
  0xdc00 + (point.val - 0x10000) % 1024

/-- What stands for one character of a string, with `ensure_ascii=True`. -/
def asciiCharacter (point : CodePoint) : Text :=
  if point = char '"' then [char '\\', char '"']
  else if point = char '\\' then [char '\\', char '\\']
  else if point = 10 then [char '\\', char 'n']
  else if point = 13 then [char '\\', char 'r']
  else if point = 9 then [char '\\', char 't']
  else if point = 12 then [char '\\', char 'f']
  else if point = 8 then [char '\\', char 'b']
  else if 32 ≤ point.val ∧ point.val ≤ 126 then [point]
  else if point.val < 0x10000 then unicodeEscape point.val
  else unicodeEscape (highSurrogate point) ++ unicodeEscape (lowSurrogate point)

/-- `json.dumps` of a string -/
def asciiQuoted (points : Text) : Text :=
  char '"' :: points.flatMap asciiCharacter ++ [char '"']

/-- The units that a character is read back as. -/
def asciiUnits (point : CodePoint) : List StringUnit :=
  if point ∈ ([8, 9, 10, 12, 13] : Text) then [.plain point]
  else if 32 ≤ point.val ∧ point.val ≤ 126 then [.plain point]
  else if point.val < 0x10000 then [.escaped point.val]
  else [.escaped (highSurrogate point), .escaped (lowSurrogate point)]

theorem hexCode_unicodeEscape {code : Nat} (small : code < 0x10000) (rest : Text) :
    hexCode (hexDigit (code / 4096) :: hexDigit (code / 256 % 16) :: hexDigit (code / 16 % 16) ::
      hexDigit (code % 16) :: rest) = some code := by
  simp only [hexCode, hexValue?_hexDigit (show code / 4096 < 16 by omega),
    hexValue?_hexDigit (show code / 256 % 16 < 16 by omega),
    hexValue?_hexDigit (show code / 16 % 16 < 16 by omega),
    hexValue?_hexDigit (show code % 16 < 16 by omega), Option.bind_eq_bind, Option.bind_some,
    Option.pure_def, Option.some.injEq]
  omega

theorem scanUnits_unicodeEscape {code : Nat} (small : code < 0x10000) (rest : Text) :
    scanUnits 0 (unicodeEscape code ++ rest) =
      (scanUnits 0 rest).map fun scanned => (.escaped code :: scanned.1, scanned.2) :=
  scanUnits_code (hexCode_unicodeEscape small rest)

theorem surrogates_small {point : CodePoint} (astral : ¬point.val < 0x10000) :
    highSurrogate point < 0x10000 ∧ lowSurrogate point < 0x10000 := by
  have bound := point.isLt
  unfold highSurrogate lowSurrogate
  omega

/-- A written character is read back as its units. -/
theorem scanUnits_asciiCharacter (point : CodePoint) (rest : Text) :
    scanUnits 0 (asciiCharacter point ++ rest) =
      (scanUnits 0 rest).map fun scanned => (asciiUnits point ++ scanned.1, scanned.2) := by
  by_cases letter : point ∈ ([char '"', char '\\', 10, 13, 9, 12, 8] : Text)
  · simp only [List.mem_cons, List.not_mem_nil, or_false] at letter
    rcases letter with rfl | rfl | rfl | rfl | rfl | rfl | rfl
    · exact scanUnits_simple (by decide) (by decide) rest
    · exact scanUnits_simple (by decide) (by decide) rest
    · exact scanUnits_simple (by decide) (by decide) rest
    · exact scanUnits_simple (by decide) (by decide) rest
    · exact scanUnits_simple (by decide) (by decide) rest
    · exact scanUnits_simple (by decide) (by decide) rest
    · exact scanUnits_simple (by decide) (by decide) rest
  · simp only [List.mem_cons, List.not_mem_nil, or_false, not_or] at letter
    obtain ⟨notQuote, notBackslash, notLine, notReturn, notTab, notForm, notBack⟩ := letter
    have noControl : point ∉ ([8, 9, 10, 12, 13] : Text) := by
      simp [notLine, notReturn, notTab, notForm, notBack]
    unfold asciiCharacter asciiUnits
    rw [if_neg notQuote, if_neg notBackslash, if_neg notLine, if_neg notReturn, if_neg notTab,
      if_neg notForm, if_neg notBack, if_neg noControl]
    by_cases printable : 32 ≤ point.val ∧ point.val ≤ 126
    · rw [if_pos printable, if_pos printable]
      exact scanUnits_plain notQuote notBackslash (by omega) rest
    · rw [if_neg printable, if_neg printable]
      by_cases basic : point.val < 0x10000
      · rw [if_pos basic, if_pos basic]
        exact scanUnits_unicodeEscape basic rest
      · obtain ⟨high, low⟩ := surrogates_small basic
        rw [if_neg basic, if_neg basic, List.append_assoc, scanUnits_unicodeEscape high,
          scanUnits_unicodeEscape low, Option.map_map]
        rfl

theorem scanUnits_asciiCharacters (points rest : Text) :
    scanUnits 0 (points.flatMap asciiCharacter ++ char '"' :: rest) =
      some (points.flatMap asciiUnits, rest) := by
  induction points with
  | nil => simp [scanUnits]
  | cons point points inductionHypothesis =>
      rw [List.flatMap_cons, List.append_assoc, scanUnits_asciiCharacter, inductionHypothesis]
      rfl

/-! ## Surrogate pairs -/

/-- No two halves of a pair are next to each other. -/
def Joined (points : Text) : Prop :=
  points.IsChain fun high low => isPair high.val low.val = false

theorem joined_cons {point : CodePoint} {points : Text} :
    Joined (point :: points) ↔
      (forall low, points.head? = some low -> isPair point.val low.val = false) ∧
        Joined points := by
  unfold Joined
  rw [List.isChain_cons]
  rfl

theorem joinSurrogates_alone
    {code : Nat}
    {units : List StringUnit}
    (alone : forall low, units.head? = some (.escaped low) -> isPair code low = false) :
    joinSurrogates (.escaped code :: units) =
      Fin.ofNat 0x110000 code :: joinSurrogates units := by
  rw [joinSurrogates]
  split
  · next low isLow => rw [if_neg (by rw [alone low isLow]; decide)]
  · rfl

/-- A pair of escapes is one character; the second half is no first half of another. -/
theorem joinSurrogates_pair
    {high low : Nat}
    {units : List StringUnit}
    (pair : isPair high low = true) :
    joinSurrogates (.escaped high :: .escaped low :: units) =
      Fin.ofNat 0x110000 (0x10000 + (high - 0xd800) * 1024 + (low - 0xdc00)) ::
        joinSurrogates units := by
  have second : forall other, isPair low other = false := by
    intro other
    simp only [isPair, Bool.and_eq_true, decide_eq_true_eq] at pair
    simp only [isPair, Bool.and_eq_false_iff, decide_eq_false_iff_not]
    omega
  rw [joinSurrogates, List.head?_cons]
  simp only [pair, if_true]
  rw [joinSurrogates_alone fun other _ => second other, List.tail_cons]

theorem isPair_surrogates {point : CodePoint} (astral : ¬point.val < 0x10000) :
    isPair (highSurrogate point) (lowSurrogate point) = true := by
  have bound := point.isLt
  have range : (0xd800 ≤ highSurrogate point ∧ highSurrogate point ≤ 0xdbff) ∧
      0xdc00 ≤ lowSurrogate point ∧ lowSurrogate point ≤ 0xdfff := by
    unfold highSurrogate lowSurrogate
    omega
  simp only [isPair, range.1.1, range.1.2, range.2.1, range.2.2, decide_true, Bool.and_true]

/-- The code of an escape is a character of the text, or the first half of a pair. -/
theorem head_asciiUnits
    {points : Text}
    {code : Nat}
    (isHead : (points.flatMap asciiUnits).head? = some (.escaped code)) :
    (Exists fun point => points.head? = some point ∧ point.val = code) ∨
      code < 0xdc00 := by
  cases points with
  | nil => exact absurd isHead.symm (Option.some_ne_none _)
  | cons point rest =>
      rw [List.flatMap_cons] at isHead
      unfold asciiUnits at isHead
      split at isHead
      · exact StringUnit.noConfusion (Option.some.inj isHead)
      · split at isHead
        · exact StringUnit.noConfusion (Option.some.inj isHead)
        · split at isHead
          · exact Or.inl ⟨point, rfl, StringUnit.escaped.inj (Option.some.inj isHead)⟩
          · next astral =>
              right
              rw [← StringUnit.escaped.inj (Option.some.inj isHead), highSurrogate]
              have bound := point.isLt
              omega

/-- The units of a joined text are joined to it. -/
theorem joinSurrogates_asciiUnits {points : Text} (joined : Joined points) :
    joinSurrogates (points.flatMap asciiUnits) = points := by
  induction points with
  | nil => rfl
  | cons point rest inductionHypothesis =>
      obtain ⟨apart, joinedRest⟩ := joined_cons.mp joined
      have back := inductionHypothesis joinedRest
      have whole : point.val < 0x110000 := point.isLt
      rw [List.flatMap_cons, asciiUnits]
      split
      · exact congrArg (List.cons point) back
      · split
        · exact congrArg (List.cons point) back
        · split
          · have alone : forall low, (rest.flatMap asciiUnits).head? = some (.escaped low) ->
                isPair point.val low = false := by
              intro low isLow
              rcases head_asciiUnits isLow with ⟨next, isNext, rfl⟩ | small
              · exact apart next isNext
              · simp only [isPair, Bool.and_eq_false_iff, decide_eq_false_iff_not]
                omega
            rw [List.singleton_append, joinSurrogates_alone alone, back]
            exact congrArg (fun first => first :: rest) (Fin.ext (Nat.mod_eq_of_lt whole))
          · next astral =>
              rw [List.cons_append, List.singleton_append,
                joinSurrogates_pair (isPair_surrogates astral), back]
              refine congrArg (fun first => first :: rest) (Fin.ext ?_)
              have value : 0x10000 + (highSurrogate point - 0xd800) * 1024 +
                  (lowSurrogate point - 0xdc00) = point.val := by
                unfold highSurrogate lowSurrogate
                omega
              rw [value]
              exact Nat.mod_eq_of_lt whole

/-- A joined string is read back. -/
theorem scanString_asciiQuoted {points : Text} (joined : Joined points) (rest : Text) :
    scanString (points.flatMap asciiCharacter ++ char '"' :: rest) = some (points, rest) := by
  rw [scanString, scanUnits_asciiCharacters, Option.map_some, joinSurrogates_asciiUnits joined]

/-! ## Strings of a text without surrogates -/

/-- A unit of a text without surrogates. -/
def StringUnit.Scanned : StringUnit -> Prop
  | .plain point => (toChar? point).isSome = true
  | .escaped code => code < 0x10000

/-- A character is no half of a pair. -/
theorem isPair_of_plain {point : CodePoint} (plain : (toChar? point).isSome = true) (other : Nat) :
    isPair point.val other = false ∧ isPair other point.val = false := by
  have valid : point.val.isValidChar := by
    unfold toChar? at plain
    split at plain
    · assumption
    · exact absurd plain Bool.false_ne_true
  simp only [isPair, Bool.and_eq_false_iff, decide_eq_false_iff_not]
  unfold Nat.isValidChar at valid
  omega

/-- A text without surrogates before a joined text is joined to it. -/
theorem joined_append {left right : Text} (plain : Plain left) (joined : Joined right) :
    Joined (left ++ right) := by
  induction left with
  | nil => exact joined
  | cons point left inductionHypothesis =>
      obtain ⟨isPlain, plainLeft⟩ := plain_cons.mp plain
      exact joined_cons.mpr ⟨fun low _ => (isPair_of_plain isPlain low.val).1,
        inductionHypothesis plainLeft⟩

theorem joined_of_plain {points : Text} (plain : Plain points) : Joined points := by
  rw [← List.append_nil points]
  exact joined_append plain List.isChain_nil

theorem hexValue?_lt {point : CodePoint} {value : Nat} (isValue : hexValue? point = some value) :
    value < 16 := by
  unfold hexValue? at isValue
  split at isValue
  · rw [← Option.some.inj isValue]
    omega
  · split at isValue
    · rw [← Option.some.inj isValue]
      omega
    · split at isValue
      · rw [← Option.some.inj isValue]
        omega
      · exact absurd isValue.symm (Option.some_ne_none _)

theorem hexCode_lt {points : Text} {code : Nat} (isCode : hexCode points = some code) :
    code < 0x10000 := by
  unfold hexCode at isCode
  split at isCode
  · simp only [Option.bind_eq_bind, Option.bind_eq_some_iff, Option.pure_def,
      Option.some.injEq] at isCode
    obtain ⟨first, isFirst, second, isSecond, third, isThird, fourth, isFourth, rfl⟩ := isCode
    have bounds := And.intro (And.intro (hexValue?_lt isFirst) (hexValue?_lt isSecond))
      (And.intro (hexValue?_lt isThird) (hexValue?_lt isFourth))
    omega
  · exact absurd isCode.symm (Option.some_ne_none _)

theorem scanned_simpleEscape {letter point : CodePoint} (escape : simpleEscape letter = some point) :
    (toChar? point).isSome = true := by
  have letters : Plain [char '"', char '\\', char '/', 8, 12, 10, 13, 9] :=
    plain_text "\"\\/\x08\x0c\n\r\t"
  apply letters
  unfold simpleEscape at escape
  repeat
    split at escape
    · simp [← Option.some.inj escape]
  exact absurd escape.symm (Option.some_ne_none _)

theorem scanEscape_scanned
    {points : Text}
    {unit : StringUnit}
    {count : Nat}
    (escape : scanEscape points = some (unit, count)) :
    unit.Scanned := by
  cases points with
  | nil => exact absurd escape.symm (Option.some_ne_none _)
  | cons letter rest =>
      rw [scanEscape] at escape
      split at escape
      · obtain ⟨code, isCode, same⟩ := Option.map_eq_some_iff.mp escape
        rw [← (Prod.mk.inj same).1]
        exact hexCode_lt isCode
      · obtain ⟨point, isPoint, same⟩ := Option.map_eq_some_iff.mp escape
        rw [← (Prod.mk.inj same).1]
        exact scanned_simpleEscape isPoint

/-- The units of a text without surrogates, and what is left of it. -/
theorem scanUnits_scanned
    {count : Nat}
    {points rest : Text}
    {units : List StringUnit}
    (plain : Plain points)
    (scanned : scanUnits count points = some (units, rest)) :
    (forall unit, unit ∈ units -> unit.Scanned) ∧ rest <:+ points := by
  induction points generalizing count units with
  | nil => exact absurd scanned.symm (by rw [scanUnits]; exact Option.some_ne_none _)
  | cons point points inductionHypothesis =>
      obtain ⟨isPlain, plainPoints⟩ := plain_cons.mp plain
      have inner := List.suffix_cons point points
      cases count with
      | succ count =>
          obtain ⟨each, suffix⟩ := inductionHypothesis plainPoints scanned
          exact ⟨each, suffix.trans inner⟩
      | zero =>
          rw [scanUnits] at scanned
          split at scanned
          · obtain ⟨rfl, rfl⟩ := Prod.mk.inj (Option.some.inj scanned)
            exact ⟨List.forall_mem_nil _, inner⟩
          · split at scanned
            · obtain ⟨⟨unit, taken⟩, isUnit, others⟩ := Option.bind_eq_some_iff.mp scanned
              obtain ⟨⟨units, after⟩, areUnits, same⟩ := Option.map_eq_some_iff.mp others
              obtain ⟨rfl, rfl⟩ := Prod.mk.inj same
              obtain ⟨each, suffix⟩ := inductionHypothesis plainPoints areUnits
              exact ⟨List.forall_mem_cons.mpr ⟨scanEscape_scanned isUnit, each⟩,
                suffix.trans inner⟩
            · split at scanned
              · exact absurd scanned.symm (Option.some_ne_none _)
              · obtain ⟨⟨units, after⟩, areUnits, same⟩ := Option.map_eq_some_iff.mp scanned
                obtain ⟨rfl, rfl⟩ := Prod.mk.inj same
                obtain ⟨each, suffix⟩ := inductionHypothesis plainPoints areUnits
                exact ⟨List.forall_mem_cons.mpr ⟨isPlain, each⟩, suffix.trans inner⟩

/-- A pair is joined to a character from `0x10000`. -/
theorem joinedPair_val {high low : Nat} (pair : isPair high low = true) :
    0x10000 ≤ (Fin.ofNat 0x110000 (0x10000 + (high - 0xd800) * 1024 + (low - 0xdc00))).val := by
  simp only [isPair, Bool.and_eq_true, decide_eq_true_eq] at pair
  rw [Fin.val_ofNat, Nat.mod_eq_of_lt (by omega)]
  omega

theorem isPair_of_large {point : CodePoint} (large : 0x10000 ≤ point.val) (other : Nat) :
    isPair point.val other = false ∧ isPair other point.val = false := by
  simp only [isPair, Bool.and_eq_false_iff, decide_eq_false_iff_not]
  omega

/-- The first character comes from the first unit alone, or it is a joined pair. -/
theorem head_joinSurrogates
    {units : List StringUnit}
    {point : CodePoint}
    (isHead : (joinSurrogates units).head? = some point) :
    units.head? = some (.plain point) ∨ 0x10000 ≤ point.val ∨
      Exists fun code => units.head? = some (.escaped code) ∧
        point = Fin.ofNat 0x110000 code := by
  cases units with
  | nil => exact absurd isHead.symm (Option.some_ne_none _)
  | cons unit units =>
      cases unit with
      | plain first => exact Or.inl (congrArg (Option.map StringUnit.plain) isHead)
      | escaped code =>
          rw [joinSurrogates] at isHead
          split at isHead
          · next low isLow =>
              split at isHead
              · next pair =>
                  rw [← Option.some.inj isHead]
                  exact Or.inr (Or.inl (joinedPair_val pair))
              · exact Or.inr (Or.inr ⟨code, rfl, (Option.some.inj isHead).symm⟩)
          · exact Or.inr (Or.inr ⟨code, rfl, (Option.some.inj isHead).symm⟩)

/-- The characters of scanned units have no halves of a pair next to each other. -/
theorem joined_joinSurrogates
    {units : List StringUnit}
    (scanned : forall unit, unit ∈ units -> unit.Scanned) :
    Joined (joinSurrogates units) := by
  induction units with
  | nil => exact List.isChain_nil
  | cons unit units inductionHypothesis =>
      obtain ⟨isScanned, others⟩ := List.forall_mem_cons.mp scanned
      have joined := inductionHypothesis others
      cases unit with
      | plain point =>
          exact joined_cons.mpr ⟨fun low _ => (isPair_of_plain isScanned low.val).1, joined⟩
      | escaped code =>
          have value : (Fin.ofNat 0x110000 code).val = code :=
            Nat.mod_eq_of_lt (Nat.lt_trans isScanned (by decide))
          -- An escape that is not joined to the next one is no first half before it.
          have alone : (forall low, units.head? = some (.escaped low) ->
              isPair code low = false) ->
              Joined (Fin.ofNat 0x110000 code :: joinSurrogates units) := by
            intro notJoined
            refine joined_cons.mpr ⟨fun low isHead => ?_, joined⟩
            rw [value]
            rcases head_joinSurrogates isHead with plain | large | ⟨next, isNext, rfl⟩
            · exact (isPair_of_plain (others _ (List.mem_of_head? plain)) code).2
            · exact (isPair_of_large large code).2
            · have small : next < 0x10000 := others _ (List.mem_of_head? isNext)
              have nextValue : (Fin.ofNat 0x110000 next).val = next :=
                Nat.mod_eq_of_lt (Nat.lt_trans small (by decide))
              rw [nextValue]
              exact notJoined next isNext
          rw [joinSurrogates]
          split
          · next low isLow =>
              split
              · next pair =>
                  exact joined_cons.mpr
                    ⟨fun low _ => (isPair_of_large (joinedPair_val pair) low.val).1,
                      List.IsChain.tail joined⟩
              · next notPair =>
                  apply alone
                  intro other isOther
                  rw [isLow] at isOther
                  rw [← StringUnit.escaped.inj (Option.some.inj isOther)]
                  exact Bool.eq_false_iff.mpr notPair
          · next notEscaped => exact alone fun low isLow => absurd isLow (notEscaped low)

/-- A string of a text without surrogates is joined. -/
theorem joined_scanString
    {points value rest : Text}
    (plain : Plain points)
    (scanned : scanString points = some (value, rest)) :
    Joined value ∧ rest <:+ points := by
  obtain ⟨⟨units, after⟩, areUnits, same⟩ := Option.map_eq_some_iff.mp scanned
  obtain ⟨rfl, rfl⟩ := Prod.mk.inj same
  obtain ⟨each, suffix⟩ := scanUnits_scanned plain areUnits
  exact ⟨joined_joinSurrogates each, suffix⟩

namespace Document

variable {Double : Type} {floats : FloatFormat Double}

/-! ## Documents -/

/-- Every string and every key of the document is joined. -/
inductive JoinedTexts : Document Double -> Prop
  | null : JoinedTexts .null
  | bool (value : Bool) : JoinedTexts (.bool value)
  | int (value : Int) : JoinedTexts (.int value)
  | float (value : Double) : JoinedTexts (.float value)
  | string {value : Text} (joined : Joined value) : JoinedTexts (.string value)
  | array {values : List (Document Double)}
      (each : forall value, value ∈ values -> JoinedTexts value) :
      JoinedTexts (.array values)
  | object {entries : List (Text × Document Double)}
      (keys : forall entry, entry ∈ entries -> Joined entry.1)
      (each : forall entry, entry ∈ entries -> JoinedTexts entry.2) :
      JoinedTexts (.object entries)

theorem skipSpace_suffix (points : Text) : skipSpace points <:+ points :=
  List.dropWhile_suffix _

theorem literal_suffix
    {word points rest : Text}
    (isWord : literal word points = some rest) :
    rest <:+ points := by
  induction word generalizing points with
  | nil => exact Option.some.inj isWord ▸ List.suffix_refl _
  | cons letter word inductionHypothesis =>
      cases points with
      | nil => exact absurd isWord.symm (Option.some_ne_none _)
      | cons point points =>
          rw [literal] at isWord
          split at isWord
          · exact (inductionHypothesis isWord).trans (List.suffix_cons point points)
          · exact absurd isWord.symm (Option.some_ne_none _)

theorem scanOptional_suffix (accepted points : Text) :
    (scanOptional accepted points).2 <:+ points := by
  cases points with
  | nil => exact List.suffix_refl _
  | cons first rest =>
      rw [scanOptional]
      split
      · exact List.suffix_cons first rest
      · exact List.suffix_refl _

theorem scanMarked_suffix (marks signs points : Text) :
    (scanMarked marks signs points).2 <:+ points := by
  cases points with
  | nil => exact List.suffix_refl _
  | cons first rest =>
      rw [scanMarked]
      split
      · exact ((List.dropWhile_suffix _).trans (scanOptional_suffix signs rest)).trans
          (List.suffix_cons first rest)
      · exact List.suffix_refl _

theorem scanNumber_suffix
    {points rest : Text}
    {token : NumberToken}
    (scanned : scanNumber points = some (token, rest)) :
    rest <:+ points := by
  obtain ⟨⟨integer, after⟩, isInteger, same⟩ := Option.map_eq_some_iff.mp scanned
  rw [← (Prod.mk.inj same).2]
  have digits : after <:+ (scanOptional [char '-'] points).2 := by
    cases unsigned : (scanOptional [char '-'] points).2 with
    | nil => rw [unsigned] at isInteger; exact absurd isInteger.symm (Option.some_ne_none _)
    | cons first others =>
        rw [unsigned, scanInteger] at isInteger
        split at isInteger
        · rw [← (Prod.mk.inj (Option.some.inj isInteger)).2]
          exact List.suffix_cons first others
        · split at isInteger
          · rw [← (Prod.mk.inj (Option.some.inj isInteger)).2]
            exact (List.dropWhile_suffix _).trans (List.suffix_cons first others)
          · exact absurd isInteger.symm (Option.some_ne_none _)
  exact ((scanMarked_suffix _ _ _).trans (scanMarked_suffix _ _ _)).trans
    (digits.trans (scanOptional_suffix _ points))

/-- What is read has joined texts, and what is left is the end of the text. -/
def ReadsJoined (points : Text) (read : Option (Document Double × Text)) : Prop :=
  forall document rest, read = some (document, rest) ->
    JoinedTexts document ∧ rest <:+ points

theorem ReadsJoined.or
    {points : Text}
    {first second : Option (Document Double × Text)}
    (firstJoined : ReadsJoined points first)
    (secondJoined : ReadsJoined points second) :
    ReadsJoined points (first <|> second) := by
  intro document rest isRead
  cases first with
  | none => exact secondJoined document rest isRead
  | some read => exact firstJoined document rest isRead

theorem readsJoined_literal
    (points word : Text)
    {document : Document Double}
    (joined : JoinedTexts document) :
    ReadsJoined points ((literal word points).map fun rest => (document, rest)) := by
  intro value rest isRead
  obtain ⟨after, isWord, same⟩ := Option.map_eq_some_iff.mp isRead
  obtain ⟨rfl, rfl⟩ := Prod.mk.inj same
  exact ⟨joined, literal_suffix isWord⟩

theorem readsJoined_scalar (floats : FloatFormat Double) (points : Text) :
    ReadsJoined points (readScalar floats points) := by
  have number : ReadsJoined points
      ((scanNumber points).map fun scanned => (ofNumber floats scanned.1, scanned.2)) := by
    intro value rest isRead
    obtain ⟨⟨token, after⟩, isNumber, same⟩ := Option.map_eq_some_iff.mp isRead
    obtain ⟨rfl, rfl⟩ := Prod.mk.inj same
    refine ⟨?_, scanNumber_suffix isNumber⟩
    unfold ofNumber
    split
    · exact .int _
    · exact .float _
  unfold readScalar
  apply ReadsJoined.or (readsJoined_literal points _ .null)
  apply ReadsJoined.or (readsJoined_literal points _ (.bool true))
  apply ReadsJoined.or (readsJoined_literal points _ (.bool false))
  apply ReadsJoined.or number
  apply ReadsJoined.or (readsJoined_literal points _ (.float _))
  apply ReadsJoined.or (readsJoined_literal points _ (.float _))
  exact readsJoined_literal points _ (.float _)

/-- With the given fuel each of the four readers reads joined texts from a text without
surrogates. -/
structure ReadsJoinedTexts (floats : FloatFormat Double) (fuel : Nat) : Prop where
  value : forall points, Plain points -> ReadsJoined points (readValue floats fuel points)
  values : forall points, Plain points -> forall values rest,
    readValues floats fuel points = some (values, rest) ->
      (forall value, value ∈ values -> JoinedTexts value) ∧ rest <:+ points
  entry : forall points, Plain points -> forall entry rest,
    readEntry floats fuel points = some (entry, rest) ->
      (Joined entry.1 ∧ JoinedTexts entry.2) ∧ rest <:+ points
  entries : forall points, Plain points -> forall entries rest,
    readEntries floats fuel points = some (entries, rest) ->
      (forall entry, entry ∈ entries -> Joined entry.1 ∧ JoinedTexts entry.2) ∧ rest <:+ points

theorem plain_of_suffix {points rest : Text} (plain : Plain points) (suffix : rest <:+ points) :
    Plain rest :=
  fun point member => plain point (suffix.subset member)

theorem ReadsJoinedTexts.value_succ
    {fuel : Nat}
    (reads : ReadsJoinedTexts floats fuel)
    {points : Text}
    (plain : Plain points) :
    ReadsJoined points (readValue floats (fuel + 1) points) := by
  intro document rest isRead
  cases points with
  | nil => exact absurd isRead.symm (Option.some_ne_none _)
  | cons first points =>
      have plainPoints := (plain_cons.mp plain).2
      have inner := List.suffix_cons first points
      have spaced := (skipSpace_suffix points).trans inner
      have plainSpaced := plain_of_suffix plain spaced
      rw [readValue] at isRead
      split at isRead
      · obtain ⟨⟨value, after⟩, scanned, same⟩ := Option.map_eq_some_iff.mp isRead
        obtain ⟨rfl, rfl⟩ := Prod.mk.inj same
        obtain ⟨joined, suffix⟩ := joined_scanString plainPoints scanned
        exact ⟨.string joined, suffix.trans inner⟩
      · split at isRead
        · split at isRead
          · obtain ⟨rfl, rfl⟩ := Prod.mk.inj (Option.some.inj isRead)
            exact ⟨.array (List.forall_mem_nil _), (List.tail_suffix _).trans spaced⟩
          · obtain ⟨⟨value, middle⟩, isValue, others⟩ := Option.bind_eq_some_iff.mp isRead
            obtain ⟨⟨values, after⟩, areValues, same⟩ := Option.map_eq_some_iff.mp others
            obtain ⟨rfl, rfl⟩ := Prod.mk.inj same
            obtain ⟨joined, suffix⟩ := reads.value _ plainSpaced _ _ isValue
            obtain ⟨each, further⟩ := reads.values _ (plain_of_suffix plainSpaced suffix) _ _ areValues
            exact ⟨.array (List.forall_mem_cons.mpr ⟨joined, each⟩),
              (further.trans suffix).trans spaced⟩
        · split at isRead
          · split at isRead
            · obtain ⟨rfl, rfl⟩ := Prod.mk.inj (Option.some.inj isRead)
              exact ⟨.object (List.forall_mem_nil _) (List.forall_mem_nil _),
                (List.tail_suffix _).trans spaced⟩
            · obtain ⟨⟨entry, middle⟩, isEntry, others⟩ := Option.bind_eq_some_iff.mp isRead
              obtain ⟨⟨entries, after⟩, areEntries, same⟩ := Option.map_eq_some_iff.mp others
              obtain ⟨rfl, rfl⟩ := Prod.mk.inj same
              obtain ⟨joined, suffix⟩ := reads.entry _ plainSpaced _ _ isEntry
              obtain ⟨each, further⟩ :=
                reads.entries _ (plain_of_suffix plainSpaced suffix) _ _ areEntries
              exact ⟨.object
                (List.forall_mem_cons.mpr ⟨joined.1, fun entry member => (each entry member).1⟩)
                (List.forall_mem_cons.mpr ⟨joined.2, fun entry member => (each entry member).2⟩),
                (further.trans suffix).trans spaced⟩
          · exact readsJoined_scalar floats _ document rest isRead

theorem ReadsJoinedTexts.values_succ
    {fuel : Nat}
    (reads : ReadsJoinedTexts floats fuel)
    {points : Text}
    (plain : Plain points)
    {values : List (Document Double)}
    {rest : Text}
    (isRead : readValues floats (fuel + 1) points = some (values, rest)) :
    (forall value, value ∈ values -> JoinedTexts value) ∧ rest <:+ points := by
  have spaced := skipSpace_suffix points
  rw [readValues] at isRead
  split at isRead
  · exact absurd isRead.symm (Option.some_ne_none _)
  · next first others isFirst =>
      rw [isFirst] at spaced
      have inner := (List.suffix_cons first others).trans spaced
      split at isRead
      · obtain ⟨rfl, rfl⟩ := Prod.mk.inj (Option.some.inj isRead)
        exact ⟨List.forall_mem_nil _, inner⟩
      · split at isRead
        · obtain ⟨⟨value, middle⟩, isValue, others⟩ := Option.bind_eq_some_iff.mp isRead
          obtain ⟨⟨values, after⟩, areValues, same⟩ := Option.map_eq_some_iff.mp others
          obtain ⟨rfl, rfl⟩ := Prod.mk.inj same
          have start := (skipSpace_suffix _).trans inner
          have plainStart := plain_of_suffix plain start
          obtain ⟨joined, suffix⟩ := reads.value _ plainStart _ _ isValue
          obtain ⟨each, further⟩ := reads.values _ (plain_of_suffix plainStart suffix) _ _ areValues
          exact ⟨List.forall_mem_cons.mpr ⟨joined, each⟩, (further.trans suffix).trans start⟩
        · exact absurd isRead.symm (Option.some_ne_none _)

theorem ReadsJoinedTexts.entry_succ
    {fuel : Nat}
    (reads : ReadsJoinedTexts floats fuel)
    {points : Text}
    (plain : Plain points)
    {entry : Text × Document Double}
    {rest : Text}
    (isRead : readEntry floats (fuel + 1) points = some (entry, rest)) :
    (Joined entry.1 ∧ JoinedTexts entry.2) ∧ rest <:+ points := by
  cases points with
  | nil => exact absurd isRead.symm (Option.some_ne_none _)
  | cons first points =>
      have inner := List.suffix_cons first points
      rw [readEntry] at isRead
      split at isRead
      · obtain ⟨⟨key, middle⟩, scanned, others⟩ := Option.bind_eq_some_iff.mp isRead
        obtain ⟨joinedKey, suffix⟩ := joined_scanString (plain_cons.mp plain).2 scanned
        split at others
        · obtain ⟨⟨value, after⟩, isValue, same⟩ := Option.map_eq_some_iff.mp others
          obtain ⟨rfl, rfl⟩ := Prod.mk.inj same
          have start := ((skipSpace_suffix _).trans ((List.tail_suffix _).trans
            (skipSpace_suffix _))).trans (suffix.trans inner)
          obtain ⟨joined, further⟩ := reads.value _ (plain_of_suffix plain start) _ _ isValue
          exact ⟨⟨joinedKey, joined⟩, further.trans start⟩
        · exact absurd others.symm (Option.some_ne_none _)
      · exact absurd isRead.symm (Option.some_ne_none _)

theorem ReadsJoinedTexts.entries_succ
    {fuel : Nat}
    (reads : ReadsJoinedTexts floats fuel)
    {points : Text}
    (plain : Plain points)
    {entries : List (Text × Document Double)}
    {rest : Text}
    (isRead : readEntries floats (fuel + 1) points = some (entries, rest)) :
    (forall entry, entry ∈ entries -> Joined entry.1 ∧ JoinedTexts entry.2) ∧
      rest <:+ points := by
  have spaced := skipSpace_suffix points
  rw [readEntries] at isRead
  split at isRead
  · exact absurd isRead.symm (Option.some_ne_none _)
  · next first others isFirst =>
      rw [isFirst] at spaced
      have inner := (List.suffix_cons first others).trans spaced
      split at isRead
      · obtain ⟨rfl, rfl⟩ := Prod.mk.inj (Option.some.inj isRead)
        exact ⟨List.forall_mem_nil _, inner⟩
      · split at isRead
        · obtain ⟨⟨entry, middle⟩, isEntry, others⟩ := Option.bind_eq_some_iff.mp isRead
          obtain ⟨⟨entries, after⟩, areEntries, same⟩ := Option.map_eq_some_iff.mp others
          obtain ⟨rfl, rfl⟩ := Prod.mk.inj same
          have start := (skipSpace_suffix _).trans inner
          have plainStart := plain_of_suffix plain start
          obtain ⟨joined, suffix⟩ := reads.entry _ plainStart _ _ isEntry
          obtain ⟨each, further⟩ := reads.entries _ (plain_of_suffix plainStart suffix) _ _ areEntries
          exact ⟨List.forall_mem_cons.mpr ⟨joined, each⟩, (further.trans suffix).trans start⟩
        · exact absurd isRead.symm (Option.some_ne_none _)

theorem readsJoinedTexts (floats : FloatFormat Double) (fuel : Nat) :
    ReadsJoinedTexts floats fuel := by
  induction fuel with
  | zero =>
      exact {
        value := fun _ _ _ _ isRead => absurd isRead.symm (Option.some_ne_none _)
        values := fun _ _ _ _ isRead => absurd isRead.symm (Option.some_ne_none _)
        entry := fun _ _ _ _ isRead => absurd isRead.symm (Option.some_ne_none _)
        entries := fun _ _ _ _ isRead => absurd isRead.symm (Option.some_ne_none _) }
  | succ fuel inductionHypothesis =>
      exact {
        value := fun _ plain => inductionHypothesis.value_succ plain
        values := fun _ plain _ _ => inductionHypothesis.values_succ plain
        entry := fun _ plain _ _ => inductionHypothesis.entry_succ plain
        entries := fun _ plain _ _ => inductionHypothesis.entries_succ plain }

theorem joinedTexts_uniqueKeys
    {document : Document Double}
    (joined : JoinedTexts document) :
    JoinedTexts (uniqueKeys document) := by
  induction joined with
  | null => exact .null
  | bool value => exact .bool value
  | int value => exact .int value
  | float value => exact .float value
  | string joined => exact .string joined
  | array each inductionHypothesis =>
      rw [uniqueKeys, uniqueValues_eq]
      refine .array fun value member => ?_
      obtain ⟨original, isOriginal, rfl⟩ := List.mem_map.mp member
      exact inductionHypothesis original isOriginal
  | object keys each inductionHypothesis =>
      rw [uniqueKeys, uniqueEntries_eq]
      refine .object (fun entry member => ?_) fun entry member => ?_
      · obtain ⟨original, isOriginal, rfl⟩ := List.mem_map.mp (mem_of_mem_dictOf member)
        exact keys original isOriginal
      · obtain ⟨original, isOriginal, rfl⟩ := List.mem_map.mp (mem_of_mem_dictOf member)
        exact inductionHypothesis original isOriginal

/-- A document that is loaded from a text without surrogates has joined texts. -/
theorem joinedTexts_loads
    {points : Text}
    {document : Document Double}
    (plain : Plain points)
    (loaded : loads floats points = some document) :
    JoinedTexts document := by
  obtain ⟨⟨value, rest⟩, isRead, ends⟩ := Option.bind_eq_some_iff.mp loaded
  split at ends
  · rw [← Option.some.inj ends]
    exact joinedTexts_uniqueKeys ((readsJoinedTexts floats _).value _
      (plain_of_suffix plain (skipSpace_suffix points)) _ _ isRead).1
  · exact absurd ends.symm (Option.some_ne_none _)

theorem JoinedTexts.of_lookup
    {entries : List (Text × Document Double)}
    (joined : JoinedTexts (.object entries))
    {key : Text}
    {value : Document Double}
    (found : entries.lookup key = some value) :
    JoinedTexts value := by
  cases joined with
  | object keys each => exact each _ (mem_of_lookup found)

theorem JoinedTexts.joined {value : Text} (joined : JoinedTexts (.string value : Document Double)) :
    Joined value := by
  cases joined with
  | string joined => exact joined

end Document
end Library
end LakehouseOps
