import SearchTemplate.Proofs.Query.Uppercase

/-!
# Transformations in either order

Options take effect in a fixed order, but for some the opposite order would do as well
(`Query.transform_eitherOrder`). Upper case and capitals work run by run, so that it does not matter
when the runs are put in opposite order; and a query in upper case has its words at the same
indexes, so that it does not matter when they are picked.
-/

namespace SearchTemplate

namespace Text

theorem trimEnd_ofWords_uppercase (ws : List Word) :
    (ofWords (ws.map Word.uppercase)).trimEnd = (ofWords ws).trimEnd.uppercase := by
  rcases List.eq_nil_or_concat' ws with rfl | ⟨ws, w, rfl⟩
  · rfl
  · rw [List.map_append, List.map_singleton, trimEnd_ofWords, trimEnd_ofWords, uppercase_ofWords,
      List.map_append]
    rfl

end Text

namespace Query

open Text

theorem pickWords_uppercase (positions : List Int) (q : Text) :
    pickWords positions q.uppercase = (pickWords positions q).uppercase := by
  obtain ⟨lead, ws, hlead, hws, rfl⟩ := exists_words q
  have hget : (fun i => (ws.map Word.uppercase)[i]?) = fun i => ws[i]?.map Word.uppercase :=
    funext fun _ => List.getElem?_map
  rw [uppercase_append, uppercase_of_isBlank hlead, uppercase_ofWords,
    pickWords_eq hlead hws.uppercase, pickWords_eq hlead hws, ← trimEnd_ofWords_uppercase,
    List.length_map, hget, List.map_filterMap]

/-- The query comes out the same whether `o` takes effect before `o'` or after it, or both at
once. -/
structure EitherOrder (o o' both : Options) (q : Text) : Prop where
  before : transform o' (transform o q) = transform both q
  after : transform o (transform o' q) = transform both q

/-- **Transformations in either order.** Reversing a query commutes with capitalizing it and with
upper case, upper case commutes with picking words, and there is nothing left to capitalize in
upper case. -/
theorem transform_eitherOrder (q : Text) :
    EitherOrder { capitalize := true } { reverse := true }
      { capitalize := true, reverse := true } q ∧
    EitherOrder { uppercase := .allWords } { reverse := true }
      { uppercase := .allWords, reverse := true } q ∧
    (∀ positions, EitherOrder { uppercase := .allWords } { wordPositions := positions }
      { uppercase := .allWords, wordPositions := positions } q) ∧
    transform { uppercase := .allWords, capitalize := true } q =
      transform { uppercase := .allWords } q := by
  refine ⟨⟨rfl, ?_⟩, ⟨rfl, ?_⟩, fun positions => ?_, capitalize_uppercase q⟩
  · exact runwise_capitalize.reverseRuns_comm q
  · exact runwise_uppercase.reverseRuns_comm q
  · cases positions with
    | nil => exact ⟨rfl, rfl⟩
    | cons p positions => exact ⟨pickWords_uppercase (p :: positions) q, rfl⟩

/-- Upper case at positions does not commute with reversing, which moves the words. -/
example :
    let o : Options := { uppercase := .positions [0] }
    let o' : Options := { reverse := true }
    transform o' (transform o (.ofString "a b")) = .ofString "b A" ∧
      transform o (transform o' (.ofString "a b")) = .ofString "B a" := by
  decide +kernel

end Query

end SearchTemplate
