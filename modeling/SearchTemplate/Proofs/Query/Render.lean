import SearchTemplate.Proofs.Percent.Plain
import SearchTemplate.Proofs.Text.Join
import SearchTemplate.Query.Split

/-!
# Taking a rendered query apart

Under the standard configuration the space is the only blank that escaping leaves, so that a query
without an escape mark is rendered symbol by symbol (`Query.render_eq_flatMap`): its words are
encoded and joined by the delimiter. A delimiter with an unsafe symbol gives them back, as no
encoded word holds such a symbol (`Query.splitOn_render`).
-/

namespace SearchTemplate

theorem Text.flatMap_join (f : Symbol → Text) (d : Text) (ws : List Text) :
    (join d ws).flatMap f = join (d.flatMap f) (ws.map (·.flatMap f)) := by
  cases ws with
  | nil => rfl
  | cons w ws =>
    rw [List.map_cons, join_cons, join_cons, List.flatMap_append, List.flatMap_assoc,
      List.flatMap_map]
    simp only [List.flatMap_append]

namespace Query

open Percent

variable {d q w : Text} {s : Symbol}

/-- What a symbol of a query gives where `d` stands for the space. -/
def writeSymbol (d : Text) (s : Symbol) : Text :=
  if s = .char ' ' then d else if Config.standard.querySet.covers s then symbolForm s else [s]

theorem isBlank_of_not_covers (hs : s ≠ .char ' ')
    (h : Config.standard.querySet.covers s = false) : s.isBlank = false := by
  refine Symbol.isBlank_of_isPlain (Config.isPlain_of_not_covers ?_)
  rw [Config.covers_urlSet, h, Bool.or_false, decide_eq_false_iff_not]
  exact hs

theorem flatMap_symbolForm (d : Text) (s : Symbol) :
    (symbolForm s).flatMap (fun x => if x.isBlank then d else [x]) = symbolForm s := by
  have hkeep : ∀ x ∈ symbolForm s, (if x.isBlank then d else [x]) = [x] := by
    intro x hx
    rw [Symbol.isBlank_of_isPlain (isPlain_of_mem_symbolForm hx)]
    rfl
  rw [List.flatMap_congr hkeep, List.flatMap_singleton']

theorem render_eq_flatMap (hq : ¬ escapeMark <:+: q) :
    render Config.standard.querySet d q = q.flatMap (writeSymbol d) := by
  rw [render, escape_eq_encode hq, encode, List.flatMap_assoc]
  refine List.flatMap_congr fun s _ => ?_
  unfold writeSymbol
  by_cases hspace : s = .char ' '
  · rw [hspace]
    simp [show Config.standard.querySet.covers (.char ' ') = false by decide,
      show (Symbol.char ' ').isBlank = true by decide]
  · rw [if_neg hspace]
    by_cases hs : Config.standard.querySet.covers s = true
    · rw [if_pos hs, flatMap_symbolForm]
    · rw [if_neg hs]
      simp [isBlank_of_not_covers hspace (Bool.eq_false_iff.mpr hs)]

theorem flatMap_writeSymbol (hw : Symbol.char ' ' ∉ w) :
    w.flatMap (writeSymbol d) = encode Config.standard.querySet w := by
  refine List.flatMap_congr fun s hs => ?_
  rw [writeSymbol, if_neg]
  rintro rfl
  exact hw hs

/-- The words of the query are encoded, and the delimiter joins them. -/
theorem render_eq_join (hq : ¬ escapeMark <:+: q) :
    render Config.standard.querySet d q
      = Text.join d ((q.splitOn space).map (encode Config.standard.querySet)) := by
  have hne : space ≠ [] := List.cons_ne_nil _ _
  have hwords : ∀ w ∈ q.splitOn space, w.flatMap (writeSymbol d)
      = encode Config.standard.querySet w := by
    intro w hw
    refine flatMap_writeSymbol fun hmem => ?_
    obtain ⟨u, v, rfl⟩ := List.append_of_mem hmem
    exact Text.not_infix_of_mem_splitOn hne hw ⟨u, v, by simp [space]⟩
  have hspace : space.flatMap (writeSymbol d) = d := List.append_nil d
  calc render Config.standard.querySet d q
      = (Text.join space (q.splitOn space)).flatMap (writeSymbol d) := by
        rw [Text.join_splitOn hne, render_eq_flatMap hq]
    _ = Text.join d ((q.splitOn space).map (encode Config.standard.querySet)) := by
        rw [Text.flatMap_join, hspace, List.map_congr_left hwords]

/-- No encoded text holds an unsafe symbol. -/
theorem not_mem_encode (hs : Config.standard.querySet.covers s = true) (w : Text) :
    s ∉ encode Config.standard.querySet w := by
  intro hmem
  rcases isPlain_or_of_mem_encode hmem with hplain | hsafe
  · have hurl := Config.not_covers_of_isPlain hplain
    rw [Config.covers_urlSet, hs, Bool.or_true] at hurl
    cases hurl
  · rw [hs] at hsafe
    cases hsafe

/-- **A rendered query can be taken apart again.** Under the standard configuration a query without
an escape mark, rendered with a delimiter that holds an unsafe symbol, splits at the delimiter into
its encoded words. With the percent form of the space as delimiter it is encoded as the text of a
URL. -/
theorem splitOn_render : ∃ u v, Config.standard.queryUnsafe = .ok u ∧
    Config.standard.urlUnsafe = .ok v ∧ ∀ q : Text, ¬ escapeMark <:+: q →
      (∀ d : Text, (∃ s ∈ d, u.covers s = true) →
        (render u d q).splitOn d = (q.splitOn space).map (encode u)) ∧
      render u (.ofString "%20") q = encode v q := by
  refine ⟨_, _, Config.queryUnsafe_eq Config.standard_encodable,
    Config.urlUnsafe_eq Config.standard_encodable, fun q hq => ⟨?_, ?_⟩⟩
  · rintro d ⟨s, hsd, hs⟩
    have hpieces : (q.splitOn space).map (encode Config.standard.querySet) ≠ [] := by
      simp [Text.splitOn_ne_nil]
    rw [render_eq_join hq]
    refine Text.splitOn_join (List.ne_nil_of_mem hsd) hpieces fun v hv => ?_
    obtain ⟨w, -, rfl⟩ := List.mem_map.mp hv
    exact Text.apart_of_not_mem hsd (not_mem_encode hs w)
  · rw [render_eq_flatMap hq]
    refine List.flatMap_congr fun s _ => ?_
    rw [writeSymbol, Config.covers_urlSet]
    by_cases hspace : s = .char ' '
    · rw [if_pos hspace, hspace]
      decide
    · simp [hspace]

/-- A query with empty words and a blank that is no space. -/
def raggedQuery : Text := .ofString " a+  b\u00a0%41 "

/-- A delimiter that overlaps itself and shares symbols with the words of `raggedQuery`. -/
def overlappingDelimiter : Text := .ofString "a+a"

theorem splitOn_render_overlapping :
    ¬ escapeMark <:+: raggedQuery ∧
      (∃ s ∈ overlappingDelimiter, Config.standard.querySet.covers s = true) ∧
      render Config.standard.querySet overlappingDelimiter raggedQuery =
        .ofString "a+aa%2Ba+aa+ab%C2%A0%41a+a" ∧
      (render Config.standard.querySet overlappingDelimiter raggedQuery).splitOn
          overlappingDelimiter =
        [[], Text.ofString "a%2B", [], Text.ofString "b%C2%A0%41", []] ∧
      render Config.standard.querySet (.ofString "%20") raggedQuery =
        encode Config.standard.urlSet raggedQuery := by
  obtain ⟨u, v, hu, hv, h⟩ := splitOn_render
  rw [Config.queryUnsafe_eq Config.standard_encodable] at hu
  rw [Config.urlUnsafe_eq Config.standard_encodable] at hv
  cases hu
  cases hv
  have hq : ¬ escapeMark <:+: raggedQuery := by decide +kernel
  have hd : ∃ s ∈ overlappingDelimiter, Config.standard.querySet.covers s = true := by
    decide +kernel
  have hwords : (raggedQuery.splitOn space).map (encode Config.standard.querySet) =
      [[], Text.ofString "a%2B", [], Text.ofString "b%C2%A0%41", []] := by decide +kernel
  exact ⟨hq, hd, by decide +kernel, ((h raggedQuery hq).1 _ hd).trans hwords, (h raggedQuery hq).2⟩

end Query

end SearchTemplate
