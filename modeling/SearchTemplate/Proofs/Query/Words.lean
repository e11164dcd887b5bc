import SearchTemplate.Proofs.Text.Words
import SearchTemplate.Query.Transform

/-!
# Picking words

Positions stand for words by their index, counted from the end where they are negative, and those
of no word are skipped (`Query.wordIndexes`). Picking words gives just these words, one after the
other with the blanks that followed them (`Query.transform_wordPositions`). What is left out is the
blanks that would end the result, so that a word which ended the query runs into the next one.
-/

namespace SearchTemplate.Query

open Text

variable {n i : Nat} {position : Int} {positions : List Int} {q lead : Text} {ws : List Word}

/-! ## Positions -/

/-- The indexes among `n` words that the positions stand for. -/
def wordIndexes (n : Nat) (positions : List Int) : List Nat :=
  (positions.filter fun p => -(n : Int) ≤ p ∧ p < n).map fun (p : Int) => (p % n).toNat

theorem wordIndex?_of_range (h : -(n : Int) ≤ position ∧ position < n) :
    wordIndex? n position = some (position % n).toNat := by
  rw [wordIndex?]
  by_cases hp : 0 ≤ position
  · rw [if_pos hp, if_pos (by omega), Int.emod_eq_of_lt hp h.2]
  · rw [if_neg hp, if_pos (by omega), ← Int.add_emod_right,
      Int.emod_eq_of_lt (by omega) (by omega)]

theorem wordIndex?_of_not_range (h : ¬ (-(n : Int) ≤ position ∧ position < n)) :
    wordIndex? n position = none := by
  rw [wordIndex?]
  split
  · exact if_neg (by omega)
  · exact if_neg (by omega)

theorem filterMap_wordIndex? (n : Nat) (positions : List Int) :
    positions.filterMap (wordIndex? n) = wordIndexes n positions := by
  induction positions with
  | nil => rfl
  | cons p positions ih =>
    by_cases hp : -(n : Int) ≤ p ∧ p < n
    · rw [List.filterMap_cons_some (wordIndex?_of_range hp), ih, wordIndexes, wordIndexes,
        List.filter_cons, if_pos (decide_eq_true hp), List.map_cons]
    · rw [List.filterMap_cons_none (wordIndex?_of_not_range hp), ih, wordIndexes, wordIndexes,
        List.filter_cons, if_neg (mt of_decide_eq_true hp)]

theorem lt_of_mem_wordIndexes (h : i ∈ wordIndexes n positions) : i < n := by
  obtain ⟨p, hp, rfl⟩ := List.mem_map.mp h
  have hrange := of_decide_eq_true (List.mem_filter.mp hp).2
  have hlt := Int.emod_lt_of_pos p (b := n) (by omega)
  omega

theorem wordIndexes_range (n : Nat) :
    wordIndexes n ((List.range n).map Nat.cast) = List.range n := by
  have hself : ∀ i ∈ List.range n, wordIndex? n (i : Int) = some i := by
    intro i hi
    have hlt := List.mem_range.mp hi
    rw [wordIndex?, if_pos (Int.natCast_nonneg i), Int.toNat_natCast, if_pos hlt]
  rw [← filterMap_wordIndex?, List.filterMap_map]
  exact (List.filterMap_congr hself).trans List.filterMap_some

/-! ## The picked words -/

theorem filterMap_getElem?_range {α : Type} (l : List α) :
    (List.range l.length).filterMap (l[·]?) = l := by
  induction l with
  | nil => rfl
  | cons x l ih =>
    rw [List.length_cons, List.range_succ_eq_map, List.filterMap_cons, List.filterMap_map]
    exact congrArg (x :: ·) ih

/-- The words of the query at the positions, in their order. -/
def pickedWords (positions : List Int) (q : Text) : List Text :=
  (wordIndexes q.visibleRuns.length positions).filterMap (q.visibleRuns[·]?)

theorem pickWords_eq (hlead : lead.isBlank = true) (hws : Separate ws) :
    pickWords positions (lead ++ ofWords ws) =
      (ofWords ((wordIndexes ws.length positions).filterMap (ws[·]?))).trimEnd := by
  have hget : (fun i => (ws.map Word.text)[i]?) = fun i => ws[i]?.map Word.text :=
    funext fun _ => List.getElem?_map
  rw [pickWords, words_eq hlead hws, List.length_map, ← List.filterMap_filterMap,
    filterMap_wordIndex?, hget, ← List.map_filterMap, ofWords, List.flatMap_def]

theorem pickedWords_eq (hlead : lead.isBlank = true) (hws : Separate ws) :
    pickedWords positions (lead ++ ofWords ws) =
      ((wordIndexes ws.length positions).filterMap (ws[·]?)).map Word.visible := by
  rw [pickedWords, visibleRuns_eq hlead hws, List.length_map, List.map_filterMap]
  simp only [List.getElem?_map]

/-- Picking words gives words again, which are separate unless one that ends the text is picked
before another. -/
theorem exists_pickWords_eq (positions : List Int) (hlead : lead.isBlank = true)
    (hws : Separate ws) : ∃ picks : List Word,
      pickWords positions (lead ++ ofWords ws) = ofWords picks ∧
      pickedWords positions (lead ++ ofWords ws) = picks.map Word.visible ∧
      ((¬ (lead ++ ofWords ws).EndsVisible ∨
        ws.length - 1 ∉ (wordIndexes ws.length positions).dropLast) → Separate picks) := by
  rw [pickWords_eq hlead hws, pickedWords_eq hlead hws]
  rcases List.eq_nil_or_concat' (wordIndexes ws.length positions) with hnil | ⟨is, i, hconcat⟩
  · rw [hnil]
    exact ⟨[], rfl, rfl, fun _ => List.isChain_nil⟩
  · have hi : i < ws.length := lt_of_mem_wordIndexes (hconcat ▸ List.mem_concat_self)
    have hpicks : (is ++ [i]).filterMap (ws[·]?) = is.filterMap (ws[·]?) ++ [ws[i]] := by
      rw [List.filterMap_append]
      simp [hi]
    rw [hconcat, List.dropLast_concat, hpicks, trimEnd_ofWords]
    refine ⟨is.filterMap (ws[·]?) ++ [ws[i].bare], rfl, ?_, fun hends => ?_⟩
    · rw [List.map_append, List.map_append]
      rfl
    · refine separate_concat (fun w hw => ?_) _
      obtain ⟨j, hj, hget⟩ := List.mem_filterMap.mp hw
      exact hws.blanks_ne_nil hget (hends.imp_right fun hlast heq => hlast (heq ▸ hj))

/-- The text is the picked words of the query, of which two can only run into one another where a
word that ends the query is followed by another one. -/
structure PickedFrom (positions : List Int) (q r : Text) : Prop where
  trimmed : r.Trimmed
  symbols : r.filter (!·.isBlank) = (pickedWords positions q).flatten
  runs : (¬ q.EndsVisible ∨
      q.visibleRuns.length - 1 ∉ (wordIndexes q.visibleRuns.length positions).dropLast) →
    r.visibleRuns = pickedWords positions q

theorem pickedFrom_pickWords (positions : List Int) (q : Text) :
    PickedFrom positions q (pickWords positions q) := by
  have hends : (pickWords positions q).EndsVisible := endsVisible_trimEnd _
  obtain ⟨lead, ws, hlead, hws, rfl⟩ := exists_words q
  obtain ⟨picks, hpick, hpicked, hseparate⟩ := exists_pickWords_eq positions hlead hws
  rw [hpick] at hends ⊢
  refine ⟨⟨startsVisible_ofWords picks, hends⟩, ?_, fun h => ?_⟩
  · rw [filter_ofWords, hpicked]
  · rw [visibleRuns_eq hlead hws, List.length_map] at h
    rw [visibleRuns_ofWords (hseparate h), hpicked]

/-- **Picking words.** The words at the positions are what is left of the query. Where it neither
starts nor ends with a blank, all its words in order are the query again. -/
theorem transform_wordPositions (q : Text) :
    (∀ positions, positions ≠ [] →
      PickedFrom positions q (transform { wordPositions := positions } q)) ∧
    (q.Trimmed → transform
      { wordPositions := (List.range q.visibleRuns.length).map Nat.cast } q = q) := by
  have htransform (positions : List Int) : transform { wordPositions := positions } q =
      if positions.isEmpty then q else pickWords positions q := rfl
  constructor
  · intro positions hne
    rw [htransform, if_neg (List.isEmpty_iff.not.mpr hne)]
    exact pickedFrom_pickWords positions q
  · intro hq
    rw [htransform]
    split
    · rfl
    · obtain ⟨ws, hws, rfl⟩ := hq.starts.exists_words
      have hpick := @pickWords_eq ((List.range ws.length).map Nat.cast) [] ws rfl hws
      rw [wordIndexes_range, filterMap_getElem?_range, hq.ends.trimEnd_eq] at hpick
      rw [visibleRuns_ofWords hws, List.length_map]
      exact hpick

def pickedQuery : Text := .ofString "\u2003ab  c\u00a0d"

def pickedPositions : List Int := [1, -3, 9, -1]

theorem transform_wordPositions_unordered :
    pickedPositions ≠ [] ∧
      pickedWords pickedPositions pickedQuery = [.ofString "c", .ofString "ab", .ofString "d"] ∧
      (transform { wordPositions := pickedPositions } pickedQuery).visibleRuns =
        pickedWords pickedPositions pickedQuery ∧
      Trimmed (.ofString "ab  c") ∧
      transform { wordPositions := [0, 1] } (.ofString "ab  c") = .ofString "ab  c" := by
  have hne : pickedPositions ≠ [] := by decide
  have hpicked : pickedWords pickedPositions pickedQuery =
      [.ofString "c", .ofString "ab", .ofString "d"] := by decide +kernel
  have hlast : pickedQuery.visibleRuns.length - 1 ∉
      (wordIndexes pickedQuery.visibleRuns.length pickedPositions).dropLast := by decide +kernel
  have htrimmed : Trimmed (.ofString "ab  c") := by decide +kernel
  have hlength : (visibleRuns (.ofString "ab  c")).length = 2 := by decide +kernel
  have hself := (transform_wordPositions (.ofString "ab  c")).2 htrimmed
  rw [hlength] at hself
  exact ⟨hne, hpicked,
    ((transform_wordPositions pickedQuery).1 pickedPositions hne).runs (.inr hlast),
    htrimmed, hself⟩

/-- The word that ends the query has no blank after it, wherever it is put. -/
example : transform { wordPositions := [-1, 0] } (.ofString "ab  c") = .ofString "cab" := by
  decide +kernel

end SearchTemplate.Query
