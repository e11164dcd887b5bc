import SearchTemplate.Proofs.Query.Split
import SearchTemplate.Proofs.Query.Words
import SearchTemplate.Proofs.Text.Capitalize

/-!
# Upper case at positions

Upper case at positions works word by word: it changes the words that some position stands for,
each once as upper case is final, and nothing else (`Query.transform_positions`). Blanks that open
a query would be lost on the way, so that it has to start with a visible symbol, as queries do that
are read from fragments or made of picked words.
-/

namespace SearchTemplate

namespace Text

variable {ws : List Word}

/-! ## Words in upper case -/

/-- The word in upper case, with its blanks as they are. -/
def Word.uppercase (w : Word) : Word where
  visible := w.visible.uppercase
  blanks := w.blanks
  visible_ne_nil := uppercase_ne_nil w.visible_ne_nil
  isVisible := isBlank_of_mem_uppercase w.isVisible
  isBlank := w.isBlank

theorem Word.text_uppercase (w : Word) : w.uppercase.text = w.text.uppercase := by
  rw [Word.text, Word.text, uppercase_append, uppercase_of_isBlank w.isBlank]
  rfl

theorem uppercase_ofWords (ws : List Word) :
    (ofWords ws).uppercase = ofWords (ws.map Word.uppercase) := by
  rw [ofWords, List.flatMap_def, uppercase_flatten, List.map_map, ofWords, List.flatMap_map,
    List.flatMap_def]
  exact congrArg _ (List.map_congr_left fun w _ => w.text_uppercase.symm)

theorem Separate.uppercase (h : Separate ws) : Separate (ws.map Word.uppercase) :=
  (List.isChain_map _).mpr h

end Text

namespace Query

open Text Delimiter

variable {n i : Nat} {position : Int} {positions : List Int} {q : Text}

/-! ## Queries that start with a visible symbol -/

theorem startsVisible_of_mem_split {c : Config} {fragments : List Text}
    (hq : q ∈ split c fragments) : q.StartsVisible := by
  have hpiece : q ∈ (Sections.scan (spaced c.queryDelimiter.text) (source c fragments)).pieces :=
    Text.mem_of_mem_dropTrailingEmpty (split_eq c fragments ▸ hq)
  exact (trimmed_of_mem_pieces c.queryDelimiter.ne_nil (trimmed_source c fragments) q hpiece).starts

/-! ## Positions one after the other -/

theorem mem_wordIndexes_cons :
    i ∈ wordIndexes n (position :: positions) ↔
      wordIndex? n position = some i ∨ i ∈ wordIndexes n positions := by
  simp only [← filterMap_wordIndex?, List.mem_filterMap, List.mem_cons, exists_eq_or_imp]

theorem getElem?_uppercaseWord (words : List Text) (position : Int) (i : Nat) :
    (uppercaseWord words position)[i]? = words[i]?.map fun w =>
      if wordIndex? words.length position = some i then w.uppercase else w := by
  rw [uppercaseWord]
  split
  · rename_i j hj
    rw [List.getElem?_modify, hj]
    simp only [Option.some.injEq]
    split <;> rfl
  · rename_i hnone
    simp [hnone]

theorem length_uppercaseWord (words : List Text) (position : Int) :
    (uppercaseWord words position).length = words.length := by
  rw [uppercaseWord]
  split
  · exact List.length_modify ..
  · rfl

/-- A word is in upper case once a position stands for it, however many others do as well. -/
theorem getElem?_foldl_uppercaseWord (positions : List Int) (words : List Text) (i : Nat) :
    (positions.foldl uppercaseWord words)[i]? = words[i]?.map fun w =>
      if i ∈ wordIndexes words.length positions then w.uppercase else w := by
  induction positions generalizing words with
  | nil => simp [wordIndexes]
  | cons p positions ih =>
    rw [List.foldl_cons, ih, getElem?_uppercaseWord, length_uppercaseWord, Option.map_map]
    congr 1
    funext w
    simp only [Function.comp_apply, mem_wordIndexes_cons]
    by_cases hp : wordIndex? words.length p = some i
    · simp only [hp, if_true, true_or, uppercase_uppercase, ite_self]
    · simp only [hp, if_false, false_or]

/-! ## The words at indexes -/

/-- The query with the words at the indexes in upper case. -/
def uppercaseAt (indexes : List Nat) (q : Text) : Text :=
  q.mapWords fun i w => if i ∈ indexes then w.uppercase else w

theorem uppercaseAt_congr {is js : List Nat} (h : ∀ i, i ∈ is ↔ i ∈ js) (q : Text) :
    uppercaseAt is q = uppercaseAt js q := by
  simp only [uppercaseAt, h]

theorem uppercaseAt_all (hq : q.StartsVisible) {indexes : List Nat}
    (h : ∀ i < q.visibleRuns.length, i ∈ indexes) : uppercaseAt indexes q = q.uppercase := by
  obtain ⟨ws, hws, rfl⟩ := hq.exists_words
  rw [visibleRuns_ofWords hws, List.length_map] at h
  rw [uppercaseAt, mapWords_ofWords _ hws, uppercase_ofWords, ofWords, List.flatMap_def,
    List.map_map]
  congr 1
  refine List.ext_getElem (by simp) fun i hi _ => ?_
  rw [List.getElem_mapIdx, List.getElem_map, if_pos (h i (List.length_mapIdx ▸ hi))]
  rfl

theorem uppercase_positions (hq : q.StartsVisible) (positions : List Int) :
    uppercase (.positions positions) q =
      uppercaseAt (wordIndexes q.visibleRuns.length positions) q := by
  have hfold : uppercase (.positions positions) q =
      (positions.foldl uppercaseWord q.words).flatten := by
    cases positions with
    | nil => exact ((flatten_words q).trans hq.trimStart_eq).symm
    | cons p positions => rfl
  obtain ⟨ws, hws, rfl⟩ := hq.exists_words
  rw [hfold, words_ofWords hws, uppercaseAt, mapWords_ofWords _ hws, visibleRuns_ofWords hws,
    List.length_map]
  congr 1
  refine (List.mapIdx_eq_iff.mpr fun i => ?_).symm
  rw [getElem?_foldl_uppercaseWord, List.getElem?_map, List.length_map, Option.map_map]
  congr 1
  funext w
  simp only [Function.comp_apply]
  split
  · exact w.text_uppercase.symm
  · rfl

/-! ## Upper case as an option -/

theorem startsVisible_of_picked (hne : positions ≠ []) (q : Text) :
    (transform { wordPositions := positions } q).StartsVisible := by
  have hpick : transform { wordPositions := positions } q = pickWords positions q :=
    if_neg (List.isEmpty_iff.not.mpr hne)
  rw [hpick]
  exact (pickedFrom_pickWords positions q).trimmed.starts

/-- What upper case at the positions makes of the query. -/
structure UppercasedAt (positions : List Int) (q r : Text) : Prop where
  words : r = uppercaseAt (wordIndexes q.visibleRuns.length positions) q
  order : ∀ positions' : List Int, (∀ i, i ∈ wordIndexes q.visibleRuns.length positions' ↔
      i ∈ wordIndexes q.visibleRuns.length positions) →
    transform { uppercase := .positions positions' } q = r
  all : (∀ i < q.visibleRuns.length, i ∈ wordIndexes q.visibleRuns.length positions) →
    r = transform { uppercase := .allWords } q

/-- **Upper case at positions.** In a query that starts with a visible symbol, as all queries do
that are read from fragments or made of picked words, the words at the positions are put in upper
case and nothing else is changed. Only the set of words counts, and where it holds all of them, the
query is put in upper case as a whole. -/
theorem transform_positions :
    (∀ (c : Config) (fragments : List Text), ∀ q ∈ split c fragments, q.StartsVisible) ∧
    (∀ positions : List Int, positions ≠ [] → ∀ q : Text,
      (transform { wordPositions := positions } q).StartsVisible) ∧
    ∀ q : Text, q.StartsVisible → ∀ positions : List Int,
      UppercasedAt positions q (transform { uppercase := .positions positions } q) := by
  refine ⟨fun c fragments q hq => startsVisible_of_mem_split hq,
    fun positions hne q => startsVisible_of_picked hne q, fun q hq positions => ?_⟩
  have hwords (positions : List Int) : transform { uppercase := .positions positions } q =
      uppercaseAt (wordIndexes q.visibleRuns.length positions) q := uppercase_positions hq positions
  refine ⟨hwords positions, fun positions' hsame => ?_, fun hall => ?_⟩
  · rw [hwords, hwords, uppercaseAt_congr hsame]
  · rw [hwords, uppercaseAt_all hq hall]
    rfl

def upperFragments : List Text := [.ofString " one %%", .ofString "stra\u00dfe\u00a0 to"]

def upperQuery : Text := .ofString "stra\u00dfe\u00a0 to"

theorem transform_positions_repeated :
    upperQuery ∈ split .standard upperFragments ∧ upperQuery.StartsVisible ∧
      transform { uppercase := .positions [1] } upperQuery = .ofString "stra\u00dfe\u00a0 TO" ∧
      transform { uppercase := .positions [1, 7, -2] } upperQuery =
        transform { uppercase := .allWords } upperQuery ∧
      (transform { wordPositions := [-2, 0] } upperQuery).StartsVisible := by
  have hmem : upperQuery ∈ split .standard upperFragments := by decide +kernel
  have hlength : upperQuery.visibleRuns.length = 2 := by decide +kernel
  obtain ⟨hsplit, hpicked, htransform⟩ := transform_positions
  have hq := hsplit .standard upperFragments upperQuery hmem
  have hlast := htransform upperQuery hq [-1, 7, -1]
  have hboth := htransform upperQuery hq [1, 7, -2]
  refine ⟨hmem, hq, ?_, ?_, hpicked [-2, 0] (by decide) upperQuery⟩
  · have hresult : transform { uppercase := .positions [-1, 7, -1] } upperQuery =
        .ofString "stra\u00dfe\u00a0 TO" := by decide +kernel
    rw [← hresult]
    refine hlast.order [1] fun i => ?_
    have hindexes : wordIndexes 2 [1] = [1] ∧ wordIndexes 2 [-1, 7, -1] = [1, 1] := by decide
    rw [hlength, hindexes.1, hindexes.2]
    simp
  · refine hboth.all fun i hi => ?_
    rw [hlength] at hi ⊢
    have hindexes : wordIndexes 2 [1, 7, -2] = [1, 0] := by decide
    rw [hindexes]
    match i, hi with
    | 0, _ => decide
    | 1, _ => decide

/-- A blank that opens the query is lost even if no word is meant. -/
example : transform { uppercase := .positions [7] } (.ofString " to") = .ofString "to" := by
  decide +kernel

end Query

end SearchTemplate
