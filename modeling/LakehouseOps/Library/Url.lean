import LakehouseOps.Library.CodePoints

/-!
# URLs

How `urllib.parse` takes a URL apart and puts it together. The check of the network
location, which knows bracketed addresses and compatibility characters, is a parameter.
-/

namespace LakehouseOps
namespace Library

/-- `SplitResult` -/
structure SplitUrl where
  scheme : Text
  netloc : Text
  path : Text
  query : Text
  fragment : Text
  deriving DecidableEq

namespace SplitUrl

/-- The text before the first occurrence of a character, and the text after it. -/
def cut (point : CodePoint) (points : Text) : Text × Text :=
  (points.takeWhile fun other => other ≠ point,
    (points.dropWhile fun other => other ≠ point).drop 1)

def isAsciiLetter (point : CodePoint) : Bool :=
  (65 ≤ point.val && point.val ≤ 90) || (97 ≤ point.val && point.val ≤ 122)

/-- `scheme_chars` -/
def isSchemePoint (point : CodePoint) : Bool :=
  isAsciiLetter point || (48 ≤ point.val && point.val ≤ 57) || point ∈ text "+-."

/-- `lower()` of an ASCII character. -/
def lowerAscii (point : CodePoint) : CodePoint :=
  if 65 ≤ point.val ∧ point.val ≤ 90 then Fin.ofNat 0x110000 (point.val + 32) else point

/-- The scheme in lower case, and what follows it. -/
def cutScheme (url : Text) : Text × Text :=
  let scheme := (cut (char ':') url).1
  if char ':' ∈ url ∧ (scheme.head?.map isAsciiLetter).getD false = true ∧
      scheme.all isSchemePoint = true then
    (scheme.map lowerAscii, (cut (char ':') url).2)
  else ([], url)

/-- Without leading control characters and spaces, and without tabs and line ends. -/
def cleaned (url : Text) : Text :=
  (url.dropWhile fun point => point.val ≤ 32).filter fun point => point ∉ text "\t\r\n"

/-- Whether the network location goes on. -/
def isNetlocPoint (point : CodePoint) : Bool :=
  point ∉ text "/?#"

/-- The network location after two slashes, and what follows it. -/
def cutNetloc (url : Text) : Text × Text :=
  if url.take 2 = text "//" then
    ((url.drop 2).takeWhile isNetlocPoint, (url.drop 2).dropWhile isNetlocPoint)
  else ([], url)

/-- `urlsplit`, unless it raises. -/
def urlsplit (validNetloc : Text -> Bool) (url : Text) : Option SplitUrl :=
  let (scheme, url) := cutScheme (cleaned url)
  let (netloc, url) := cutNetloc url
  if netloc ≠ [] ∧ validNetloc netloc = false then none
  else
    let (url, fragment) := cut (char '#') url
    let (path, query) := cut (char '?') url
    some { scheme, netloc, path, query, fragment }

/-- `urlunsplit`, of a URL with a network location -/
def urlunsplit (url : SplitUrl) : Text :=
  let path := if url.path = [] ∨ url.path.head? = some (char '/') then url.path
    else char '/' :: url.path
  let query := if url.query = [] then [] else char '?' :: url.query
  let fragment := if url.fragment = [] then [] else char '#' :: url.fragment
  url.scheme ++ text "://" ++ url.netloc ++ path ++ query ++ fragment

/-! ## What a URL is split into -/

/-- A text without tabs and line ends. -/
def Clean (points : Text) : Prop :=
  forall point, point ∈ points -> point ∉ text "\t\r\n"

/-- What the parts of a split URL do not contain. -/
structure Parts (validNetloc : Text -> Bool) (url : SplitUrl) : Prop where
  netloc : Clean url.netloc
  path : Clean url.path
  query : Clean url.query
  netlocPoints : forall point, point ∈ url.netloc -> isNetlocPoint point = true
  valid : url.netloc ≠ [] -> validNetloc url.netloc = true
  pathPoints : char '?' ∉ url.path ∧ char '#' ∉ url.path
  queryPoints : char '#' ∉ url.query

theorem not_mem_cut_left (point : CodePoint) (points : Text) : point ∉ (cut point points).1 :=
  fun member => of_decide_eq_true
    (List.mem_takeWhile_imp (p := fun other => decide (other ≠ point)) member) rfl

theorem cut_left_subset (point : CodePoint) (points : Text) :
    (cut point points).1 ⊆ points :=
  (List.takeWhile_sublist _).subset

theorem cut_right_subset (point : CodePoint) (points : Text) :
    (cut point points).2 ⊆ points :=
  fun _ member => (List.dropWhile_sublist _).subset ((List.drop_sublist _ _).subset member)

theorem Clean.subset {points others : Text} (clean : Clean points) (subset : others ⊆ points) :
    Clean others :=
  fun point member => clean point (subset member)

theorem clean_cleaned (points : Text) : Clean (cleaned points) := by
  intro point member
  exact of_decide_eq_true (List.mem_filter.mp member).2

theorem cutScheme_subset (points : Text) : (cutScheme points).2 ⊆ points := by
  unfold cutScheme
  dsimp only
  split
  · exact cut_right_subset _ _
  · exact List.Subset.refl _

theorem cutNetloc_subset (points : Text) :
    (cutNetloc points).1 ⊆ points ∧ (cutNetloc points).2 ⊆ points := by
  unfold cutNetloc
  split
  · exact ⟨fun _ member => (List.drop_sublist 2 _).subset
      ((List.takeWhile_sublist _).subset member), fun _ member =>
        (List.drop_sublist 2 _).subset ((List.dropWhile_sublist _).subset member)⟩
  · exact ⟨List.nil_subset _, List.Subset.refl _⟩

theorem cutNetloc_points (points : Text) :
    forall point, point ∈ (cutNetloc points).1 -> isNetlocPoint point = true := by
  intro point member
  unfold cutNetloc at member
  split at member
  · exact List.mem_takeWhile_imp member
  · nomatch member

theorem parts_of_urlsplit {validNetloc : Text -> Bool} {points : Text} {url : SplitUrl}
    (isSplit : urlsplit validNetloc points = some url) : Parts validNetloc url := by
  unfold urlsplit at isSplit
  dsimp only at isSplit
  split at isSplit
  · nomatch isSplit
  · next accepted =>
      obtain rfl := Option.some.inj isSplit
      have clean : Clean (cutScheme (cleaned points)).2 :=
        (clean_cleaned points).subset (cutScheme_subset _)
      obtain ⟨netloc, rest⟩ := cutNetloc_subset (cutScheme (cleaned points)).2
      constructor
      · exact clean.subset netloc
      · exact clean.subset fun _ member => rest (cut_left_subset _ _ (cut_left_subset _ _ member))
      · exact clean.subset fun _ member => rest (cut_left_subset _ _ (cut_right_subset _ _ member))
      · exact cutNetloc_points _
      · intro present
        exact Bool.not_eq_false _ ▸ fun invalid => accepted ⟨present, invalid⟩
      · exact ⟨not_mem_cut_left _ _, fun member =>
          not_mem_cut_left _ _ (cut_left_subset _ _ member)⟩
      · exact fun member => not_mem_cut_left _ _ (cut_right_subset _ _ member)

/-! ## Putting a URL together -/

theorem cut_of_not_mem {point : CodePoint} {points : Text} (absent : point ∉ points) :
    cut point points = (points, []) := by
  have all : forall other, other ∈ points -> decide (other ≠ point) = true :=
    fun other member => decide_eq_true fun same => absent (same ▸ member)
  rw [cut, List.takeWhile_eq_self_iff.mpr all, List.dropWhile_eq_nil_iff.mpr all]
  rfl

theorem cut_append {point : CodePoint} {before after : Text} (absent : point ∉ before) :
    cut point (before ++ point :: after) = (before, after) := by
  have all : forall other, other ∈ before -> decide (other ≠ point) = true :=
    fun other member => decide_eq_true fun same => absent (same ▸ member)
  have stops : decide (point ≠ point) = false := decide_eq_false fun different => different rfl
  rw [cut, List.takeWhile_append_of_pos all, List.dropWhile_append_of_pos all,
    List.takeWhile_cons_of_neg (by simp), List.dropWhile_cons_of_neg (by simp), List.append_nil]
  rfl

theorem cleaned_of_clean {first : CodePoint} {points : Text} (visible : 32 < first.val)
    (clean : Clean (first :: points)) : cleaned (first :: points) = first :: points := by
  rw [cleaned, List.dropWhile_cons_of_neg (by simpa using visible)]
  exact List.filter_eq_self.mpr fun point member => decide_eq_true (clean point member)

theorem cutScheme_web {scheme rest : Text} (web : scheme ∈ [text "http", text "https"]) :
    cutScheme (scheme ++ char ':' :: rest) = (scheme, rest) := by
  have plain : forall other, other ∈ [text "http", text "https"] ->
      char ':' ∉ other ∧ (other.head?.map isAsciiLetter).getD false = true ∧
        other.all isSchemePoint = true ∧ other.map lowerAscii = other := by
    decide
  obtain ⟨noColon, letter, points, lower⟩ := plain scheme web
  unfold cutScheme
  rw [cut_append noColon]
  dsimp only
  rw [if_pos ⟨List.mem_append_right _ List.mem_cons_self, letter, points⟩, lower]

theorem cutNetloc_slashes {netloc rest : Text}
    (points : forall point, point ∈ netloc -> isNetlocPoint point = true) :
    cutNetloc (text "//" ++ (netloc ++ char '/' :: rest)) = (netloc, char '/' :: rest) := by
  have slash : ¬isNetlocPoint (char '/') = true := by decide
  have two : List.take 2 (text "//" ++ (netloc ++ char '/' :: rest)) = text "//" := rfl
  have after : List.drop 2 (text "//" ++ (netloc ++ char '/' :: rest)) =
      netloc ++ char '/' :: rest := rfl
  rw [cutNetloc, if_pos two, after, List.takeWhile_append_of_pos points,
    List.dropWhile_append_of_pos points, List.takeWhile_cons_of_neg slash,
    List.dropWhile_cons_of_neg slash, List.append_nil]

theorem clean_of_all {points : Text}
    (all : points.all (fun point => decide (point ∉ text "\t\r\n")) = true) : Clean points :=
  fun point member => of_decide_eq_true (List.all_eq_true.mp all point member)

/-- A URL of the web without a fragment is split into what it was put together from. -/
theorem urlsplit_urlunsplit {validNetloc : Text -> Bool} {url : SplitUrl} {rest : Text}
    (parts : Parts validNetloc url) (web : url.scheme ∈ [text "http", text "https"])
    (located : url.netloc ≠ []) (absolute : url.path = char '/' :: rest)
    (whole : url.fragment = []) : urlsplit validNetloc (urlunsplit url) = some url := by
  obtain ⟨scheme, netloc, path, query, fragment⟩ := url
  dsimp only at web located absolute whole
  subst absolute
  subst whole
  obtain ⟨netlocClean, pathClean, queryClean, netlocPoints, valid, ⟨noQuestion, noHash⟩,
    queryPoints⟩ := parts
  dsimp only at netlocClean pathClean queryClean netlocPoints valid noQuestion noHash queryPoints
  -- The query with its mark, if there is a query.
  obtain ⟨marked, isMarked⟩ : Exists fun marked =>
      marked = if query = [] then [] else char '?' :: query := ⟨_, rfl⟩
  have shape : urlunsplit ⟨scheme, netloc, char '/' :: rest, query, []⟩ =
      scheme ++ char ':' :: (text "//" ++ (netloc ++ char '/' :: (rest ++ marked))) := by
    rw [isMarked, urlunsplit]
    simp only [List.head?_cons, or_true, if_true, List.append_nil, List.append_assoc,
      List.cons_append]
    rfl
  have queryMarked : cut (char '?') (char '/' :: (rest ++ marked)) = (char '/' :: rest, query) := by
    rw [isMarked]
    by_cases empty : query = []
    · rw [if_pos empty, List.append_nil, cut_of_not_mem noQuestion, empty]
    · rw [if_neg empty]
      exact cut_append noQuestion
  have inMarked : forall point, point ∈ marked -> point = char '?' ∨ point ∈ query := by
    intro point member
    rw [isMarked] at member
    split at member
    · nomatch member
    · exact List.mem_cons.mp member
  have inWhole : forall point, point ∈ char '/' :: (rest ++ marked) ->
      point ∈ char '/' :: rest ∨ point = char '?' ∨ point ∈ query := by
    intro point member
    rcases List.mem_append.mp (List.cons_append ▸ member) with path | query
    · exact Or.inl path
    · exact Or.inr (inMarked point query)
  have noFragment : char '#' ∉ char '/' :: (rest ++ marked) := by
    intro member
    rcases inWhole _ member with inPath | same | inQuery
    · exact noHash inPath
    · exact absurd same (by decide)
    · exact queryPoints inQuery
  obtain ⟨first, others, isScheme, visible, schemeClean⟩ : Exists fun first =>
      Exists fun others => scheme = first :: others ∧ 32 < first.val ∧ Clean scheme := by
    rcases List.mem_cons.mp web with rfl | second
    · exact ⟨char 'h', text "ttp", rfl, by decide, clean_of_all (by decide)⟩
    · obtain rfl := List.mem_singleton.mp second
      exact ⟨char 'h', text "ttps", rfl, by decide, clean_of_all (by decide)⟩
  have clean : Clean (scheme ++ char ':' ::
      (text "//" ++ (netloc ++ char '/' :: (rest ++ marked)))) := by
    intro point member
    rcases List.mem_append.mp member with inScheme | member
    · exact schemeClean point inScheme
    rcases List.mem_cons.mp member with rfl | member
    · decide
    rcases List.mem_append.mp member with inSlashes | member
    · exact clean_of_all (by decide) point inSlashes
    rcases List.mem_append.mp member with inNetloc | member
    · exact netlocClean point inNetloc
    rcases inWhole point member with inPath | rfl | inQuery
    · exact pathClean point inPath
    · decide
    · exact queryClean point inQuery
  have isClean : cleaned (scheme ++ char ':' ::
      (text "//" ++ (netloc ++ char '/' :: (rest ++ marked)))) = scheme ++ char ':' ::
      (text "//" ++ (netloc ++ char '/' :: (rest ++ marked))) := by
    rw [isScheme] at clean ⊢
    exact cleaned_of_clean visible clean
  unfold urlsplit
  rw [shape, isClean, cutScheme_web web]
  dsimp only
  rw [cutNetloc_slashes netlocPoints]
  dsimp only
  rw [if_neg (not_and_of_not_right _ (Bool.not_eq_false _ ▸ valid located)),
    cut_of_not_mem noFragment]
  dsimp only
  rw [queryMarked]

end SplitUrl
end Library
end LakehouseOps
