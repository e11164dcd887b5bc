import SearchTemplate.Proofs.Engine.Endings
import SearchTemplate.Proofs.Query.Transform

/-!
# What a rendering reads of the queries

A placeholder reads the query at the index that it selects and no other. Whatever its options are,
it makes nothing of an empty query, which is also what it makes of a query that does not exist
(`Entry.replacement_eq_some_getD`). Two lists of queries that agree at the selected indices, as far
as that can be told, render an entry alike (`Entry.render_selected`).
-/

namespace SearchTemplate

namespace Query

theorem transform_nil (o : Options) : transform o [] = [] := by
  have hnone : ∀ s ∈ transform o [], False :=
    forall_mem_transform (P := fun _ => False) (fun _ h => h.elim) o (by simp)
  exact List.eq_nil_iff_forall_not_mem.mpr hnone

theorem render_nil (u : UnsafeSet) (d : Text) : render u d [] = [] := rfl

/-- The query at an index, which is empty where there is none. -/
def held (queries : List Text) (index : Int) : Text := queries[index.toNat]?.getD []

theorem held_append_replicate (queries : List Text) (k : Nat) (index : Int) :
    held (queries ++ List.replicate k []) index = held queries index := by
  unfold held
  rcases Nat.lt_or_ge index.toNat queries.length with h | h
  · rw [List.getElem?_append_left h]
  · rw [List.getElem?_append_right h, List.getElem?_eq_none h, List.getElem?_replicate]
    split <;> rfl

end Query

namespace Entry

variable {c : Config} {queries others : List Text} {url : Text} {p : Placeholder}

/-- A missing query is replaced as an empty one is. -/
theorem replacement_eq_some_getD (c : Config) (p : Placeholder) (o : Options)
    (query : Option Text) : replacement c p o query = replacement c p o (some (query.getD [])) := by
  cases query with
  | some q => rfl
  | none =>
    show [] = Query.render c.querySet p.delimiter (Query.transform o [])
    rw [Query.transform_nil, Query.render_nil]

/-- The selected query is all that a placeholder reads. -/
theorem result_renderPlaceholder_of_agree (hp : 1 ≤ p.occurrence)
    (h : ∀ o, p.read c = .ok o →
      Query.held queries (Query.index p o) = Query.held others (Query.index p o)) :
    (renderPlaceholder c queries url p).result = (renderPlaceholder c others url p).result := by
  cases hread : p.read c with
  | error f => rw [renderPlaceholder_of_error hread, renderPlaceholder_of_error hread]
  | ok o =>
    by_cases hc : c.Encodable
    · have hheld := h o hread
      unfold Query.held at hheld
      rw [renderPlaceholder_of_ok hc hread hp rfl, renderPlaceholder_of_ok hc hread hp rfl,
        replacement_eq_some_getD, hheld, ← replacement_eq_some_getD]
    · -- the literal text before the placeholder fails first
      obtain ⟨error, herror⟩ := Config.exists_urlUnsafe_eq_error hc
      rw [result_renderPlaceholder_of_error herror hread,
        result_renderPlaceholder_of_error herror hread]

theorem result_render_of_agree {e : Entry} (h : ∀ p ∈ e.placeholders, ∀ o, p.read c = .ok o →
      Query.held queries (Query.index p o) = Query.held others (Query.index p o)) :
    (e.render c queries).result = (e.render c others).result := by
  have hparts : ∀ p ∈ e.placeholders, (renderPlaceholder c queries e.url p).result
      = (renderPlaceholder c others e.url p).result := fun p hp =>
    result_renderPlaceholder_of_agree (one_le_occurrence hp) (h p hp)
  rw [result_render_eq, result_render_eq, mapM_congr hparts]

/-- **A rendering depends only on the queries that are selected.** Two lists of queries render an
entry to the same text, or fail to with the same report, if they agree at the index that each
placeholder selects, where a query past the end counts as empty. Hence empty queries at the end of
the list change nothing. -/
theorem render_selected (c : Config) (e : Entry) :
    (∀ queries others : List Text,
      (∀ p ∈ e.placeholders, ∀ o, p.read c = .ok o →
        Query.held queries (Query.index p o) = Query.held others (Query.index p o)) →
      (e.render c queries).result = (e.render c others).result) ∧
    ∀ (queries : List Text) (k : Nat),
      (e.render c (queries ++ List.replicate k [])).result = (e.render c queries).result := by
  refine ⟨fun queries others h => result_render_of_agree h, fun queries k => ?_⟩
  exact result_render_of_agree fun _ _ _ _ => Query.held_append_replicate queries k _

/-- An entry that selects the first and the third query, by number and by name, with every kind of
option. -/
def selectingEntry : Entry :=
  ⟨.ofString "a\x7bsearch!U!R\\+\x7db\x7bsearch!3!W0!W2!U1!C!M\\-\x7dc", some (.ofString "<>d")⟩

def selectedQueries : List Text := [.ofString "x y", .ofString "z", []]

/-- The first query again, another second one, and no third one. -/
def otherQueries : List Text := [.ofString "x y", .ofString "other"]

theorem render_selected_missing :
    (∀ p ∈ selectingEntry.placeholders, ∀ o, p.read .standard = .ok o →
      Query.held selectedQueries (Query.index p o) = Query.held otherQueries (Query.index p o)) ∧
    (selectingEntry.render .standard selectedQueries).result = .ok (.ofString "aY+Xbc<>d") ∧
    (selectingEntry.render .standard otherQueries).result = .ok (.ofString "aY+Xbc<>d") ∧
    (selectingEntry.render .standard (otherQueries ++ List.replicate 2 [])).result =
      .ok (.ofString "aY+Xbc<>d") := by
  have hagree : ∀ p ∈ selectingEntry.placeholders, ∀ o ∈ (p.read .standard).toOption,
      Query.held selectedQueries (Query.index p o) = Query.held otherQueries (Query.index p o) := by
    decide +kernel
  have hselected : ∀ p ∈ selectingEntry.placeholders, ∀ o, p.read .standard = .ok o →
      Query.held selectedQueries (Query.index p o) = Query.held otherQueries (Query.index p o) :=
    fun p hp o ho => hagree p hp o (by rw [ho]; rfl)
  have hrender : (selectingEntry.render .standard selectedQueries).result =
      .ok (.ofString "aY+Xbc<>d") := by decide +kernel
  obtain ⟨hsame, hmore⟩ := render_selected .standard selectingEntry
  have hother := (hsame selectedQueries otherQueries hselected).symm.trans hrender
  exact ⟨hselected, hrender, hother, (hmore otherQueries 2).trans hother⟩

end Entry

end SearchTemplate
