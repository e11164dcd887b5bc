import SearchTemplate.Placeholder.Scan
import SearchTemplate.Proofs.Percent.Plain
import SearchTemplate.Proofs.Query.Uppercase
import SearchTemplate.Proofs.Text.Sparse

/-!
# Escape marks that a transformation makes

A query without an escape mark may have one after it is transformed, although the user wrote none:
where its last word ends with a backslash and is picked in front of a word that starts with one, and
where an encoded comma is dropped from between two backslashes. `Query.transform_mark_iff` says that
these are the only ways. Upper case, capitals and the order of the runs leave the backslashes apart,
and so does every other pick of words, which have blanks between them.
-/

namespace SearchTemplate

variable {x : Symbol} {q lead : Text} {positions : List Int}

namespace Text

variable {ws : List Word}

/-! ## Words one after the other -/

theorem Word.blanks_eq_nil (hx : x.isBlank = false) {w : Word}
    (h : w.text.getLast? = some x) : w.blanks = [] := by
  by_contra hne
  rw [Word.text, List.getLast?_append_of_ne_nil _ hne] at h
  exact not_mem_of_isBlank hx w.isBlank (List.mem_of_getLast? h)

theorem Word.head?_text (w : Word) : w.text.head? = w.visible.head? :=
  List.head?_append_of_ne_nil _ w.visible_ne_nil

theorem sparse_ofWords (ws : List Word) : Sparse x (ofWords ws) ↔ (∀ w ∈ ws, Sparse x w.text) ∧
    ws.IsChain fun v w => ¬ (v.text.getLast? = some x ∧ w.visible.head? = some x) := by
  induction ws with
  | nil => exact iff_of_true sparse_nil ⟨nofun, List.isChain_nil⟩
  | cons w ws ih =>
    have hhead : (ofWords ws).head? = ws.head?.bind fun v => v.visible.head? := by
      cases ws with
      | nil => rfl
      | cons v ws =>
        rw [ofWords_cons, List.head?_append_of_ne_nil _ v.text_ne_nil, v.head?_text]
        rfl
    have hjoint : (∀ v ∈ ws.head?, ¬ (w.text.getLast? = some x ∧ v.visible.head? = some x)) ↔
        ¬ (w.text.getLast? = some x ∧ (ofWords ws).head? = some x) := by
      rw [hhead]
      cases ws.head? with
      | none => simp
      | some v => simp
    rw [ofWords_cons, sparse_append, ih, List.forall_mem_cons, List.isChain_cons, hjoint]
    tauto

/-- The last word of a text that ends with a visible symbol ends with it. -/
theorem getLast?_append_ofWords (t : Text) {w : Word} (hw : ws.getLast? = some w) :
    (t ++ ofWords ws).getLast? = w.text.getLast? := by
  obtain ⟨ws, rfl⟩ := List.getLast?_eq_some_iff.mp hw
  rw [ofWords_append, ofWords_singleton, ← List.append_assoc,
    List.getLast?_append_of_ne_nil _ w.text_ne_nil]

end Text

/-- What holds of any two picked items one after the other. -/
theorem isChain_filterMap_iff {α β : Type} {R : β → β → Prop} {f : α → Option β} {l : List α}
    (hf : ∀ a ∈ l, (f a).isSome = true) :
    (l.filterMap f).IsChain R ↔ l.IsChain fun a b => ∀ x ∈ f a, ∀ y ∈ f b, R x y := by
  induction l with
  | nil => exact iff_of_true List.isChain_nil List.isChain_nil
  | cons a l ih =>
    obtain ⟨ha, hl⟩ := List.forall_mem_cons.mp hf
    obtain ⟨v, hv⟩ := Option.isSome_iff_exists.mp ha
    rw [List.filterMap_cons_some hv, List.isChain_cons, List.isChain_cons, ih hl]
    refine and_congr_left fun _ => ?_
    cases l with
    | nil => exact iff_of_true nofun nofun
    | cons b l =>
      obtain ⟨w, hw⟩ := Option.isSome_iff_exists.mp (hl b List.mem_cons_self)
      rw [List.filterMap_cons_some hw]
      simp [hv, hw]

namespace Query

open Text

/-! ## Picked words -/

/-- The query ends with `x`, and its last word is picked right before one that starts with `x`. -/
def Meets (x : Symbol) (positions : List Int) (q : Text) : Prop :=
  q.getLast? = some x ∧ ∃ i w,
    [q.visibleRuns.length - 1, i] <:+: wordIndexes q.visibleRuns.length positions ∧
      q.visibleRuns[i]? = some w ∧ w.head? = some x

/-- Two picked words can only meet where the one in front has no blanks after it. -/
theorem sparse_pickWords_iff (hx : x.isBlank = false) (hq : Sparse x q) :
    Sparse x (pickWords positions q) ↔ ¬ Meets x positions q := by
  obtain ⟨lead, ws, hlead, hws, rfl⟩ := exists_words q
  have hwords : ∀ w ∈ ws, Sparse x w.text :=
    ((sparse_ofWords ws).mp (sparse_append.mp hq).2.1).1
  have hpicks : ∀ w ∈ (wordIndexes ws.length positions).filterMap (ws[·]?), Sparse x w.text := by
    intro w hw
    obtain ⟨i, -, hi⟩ := List.mem_filterMap.mp hw
    exact hwords w (List.mem_of_getElem? hi)
  have hfound : ∀ i ∈ wordIndexes ws.length positions, (ws[i]?).isSome = true := fun i hi =>
    Option.isSome_iff_exists.mpr ⟨_, List.getElem?_eq_getElem (lt_of_mem_wordIndexes hi)⟩
  rw [pickWords_eq hlead hws, sparse_trimEnd hx, sparse_ofWords, and_iff_right hpicks,
    isChain_filterMap_iff hfound, isChain_iff_forall_pair, Meets, visibleRuns_eq hlead hws,
    List.length_map]
  constructor
  · rintro h ⟨hlast, i, w, hin, hw, hhead⟩
    rw [List.getElem?_map] at hw
    obtain ⟨w, hi, rfl⟩ := Option.map_eq_some_iff.mp hw
    have hlt := lt_of_mem_wordIndexes (hin.subset List.mem_cons_self)
    have hget := List.getElem?_eq_getElem hlt
    refine h _ i hin _ hget w hi ⟨?_, hhead⟩
    rw [← List.getLast?_eq_getElem?] at hget
    rw [← hlast, getLast?_append_ofWords lead hget]
  · rintro h i j hin v hv w hw ⟨hlast, hhead⟩
    have hblanks := v.blanks_eq_nil hx hlast
    have hends : ¬ (¬ (lead ++ ofWords ws).EndsVisible ∨ i ≠ ws.length - 1) := fun hends =>
      hws.blanks_ne_nil hv hends hblanks
    obtain ⟨-, rfl⟩ : (lead ++ ofWords ws).EndsVisible ∧ i = ws.length - 1 := by
      simpa only [not_or, not_not] using hends
    refine h ⟨?_, j, w.visible, hin, ?_, hhead⟩
    · rw [Option.mem_def, ← List.getLast?_eq_getElem?] at hv
      rw [getLast?_append_ofWords lead hv, hlast]
    · rw [List.getElem?_map, hw]
      rfl

/-! ## The other steps -/

theorem forall₂_recased_foldl (positions : List Int) (words : List Text) :
    List.Forall₂ Recased words (positions.foldl uppercaseWord words) := by
  have hfold : positions.foldl uppercaseWord words = words.mapIdx fun i w =>
      if i ∈ wordIndexes words.length positions then w.uppercase else w :=
    (List.mapIdx_eq_iff.mpr fun i => getElem?_foldl_uppercaseWord positions words i).symm
  rw [hfold, List.forall₂_iff_get]
  refine ⟨List.length_mapIdx.symm, fun i hi hi' => ?_⟩
  rw [List.get_eq_getElem, List.get_eq_getElem, List.getElem_mapIdx]
  split
  · exact recased_uppercase _
  · exact .refl _

theorem sparse_uppercase_iff (hx : x.isBlank = false) (hcase : Caseless x) (u : Uppercase)
    (q : Text) : Sparse x (uppercase u q) ↔ Sparse x q := by
  unfold uppercase
  split
  · exact (recased_uppercase q).sparse_iff hcase
  · exact Iff.rfl
  · rename_i indexes _
    rw [(recased_flatten (forall₂_recased_foldl indexes q.words)).sparse_iff hcase, flatten_words,
      sparse_trimStart hx]

theorem transform_eq_ite (o : Options) (q : Text) : transform o q =
    if o.stripCommas then (transform { o with stripCommas := false } q).erase encodedComma
    else transform { o with stripCommas := false } q := rfl

/-- Only picking words can bring two `x` together as long as no commas are dropped. -/
theorem sparse_transform_iff (hx : x.isBlank = false) (hcase : Caseless x) (hq : Sparse x q)
    (o : Options) : Sparse x (transform { o with stripCommas := false } q) ↔
      ¬ Meets x o.wordPositions q := by
  have hpicked : Sparse x (if o.wordPositions.isEmpty then q else pickWords o.wordPositions q) ↔
      ¬ Meets x o.wordPositions q := by
    split
    · rename_i hnil
      refine iff_of_true hq ?_
      rintro ⟨-, i, w, hin, -⟩
      rw [List.isEmpty_iff.mp hnil] at hin
      exact List.cons_ne_nil _ _ (List.infix_nil.mp hin)
    · exact sparse_pickWords_iff hx hq
  have hcapital (t : Text) : Sparse x (if o.capitalize then t.capitalize else t) ↔ Sparse x t := by
    split
    · exact (recased_capitalizeAfter false t).sparse_iff hcase
    · exact Iff.rfl
  have hreverse (t : Text) : Sparse x (if o.reverse then t.reverseRuns else t) ↔ Sparse x t := by
    split
    · exact sparse_reverseRuns t
    · exact Iff.rfl
  exact (hreverse _).trans <| (hcapital _).trans <|
    (sparse_uppercase_iff hx hcase o.uppercase _).trans hpicked

/-! ## Escape marks -/

open Placeholder

theorem caseless_backslash : Caseless backslash where
  uppercase_eq := by decide +kernel
  eq_of_mem s hs := by
    have hcode : Symbol.code backslash = 0x5C := rfl
    rcases Symbol.eq_or_code_of_mem_uppercase hs with heq | hletter | hwide
    · exact heq.symm
    · omega
    · omega

/-- An encoded comma, or several, are dropped from between two backslashes of the text that the
other options leave. -/
def DropsBetween (o : Options) (q : Text) : Prop :=
  o.stripCommas = true ∧ ∃ k, backslash :: spansBefore encodedComma (k + 1) backslash <:+:
    transform { o with stripCommas := false } q

/-- The two ways in which a transformation brings backslashes together. -/
def ForgesMark (o : Options) (q : Text) : Prop :=
  Meets backslash o.wordPositions q ∨ DropsBetween o q

/-- **Escape marks that a transformation makes.** A query without an escape mark has one after it
is transformed exactly where two picked words meet with backslashes or an encoded comma is dropped
from between two of them. Everywhere else, escaping the result keeps no unsafe symbol. -/
theorem transform_mark_iff (hq : ¬ Percent.escapeMark <:+: q) (o : Options) :
    (Percent.escapeMark <:+: transform o q ↔ ForgesMark o q) ∧
    (¬ ForgesMark o q →
      ∀ u, Percent.escape u (transform o q) = Percent.encode u (transform o q)) := by
  have hiff : Percent.escapeMark <:+: transform o q ↔ ForgesMark o q := by
    have hpicked := sparse_transform_iff (by decide) caseless_backslash hq o
    rw [← not_iff_not, ForgesMark, not_or, ← hpicked, DropsBetween, transform_eq_ite]
    generalize transform { o with stripCommas := false } q = t
    by_cases hstrip : o.stripCommas = true
    · have herase : ¬ Percent.escapeMark <:+: t.erase encodedComma ↔
          ∀ k, ¬ backslash :: spansBefore encodedComma k backslash <:+: t :=
        sparse_erase_iff (by decide) (by decide) t
      rw [if_pos hstrip, herase, and_iff_right hstrip, not_exists]
      exact Nat.and_forall_add_one.symm
    · rw [if_neg hstrip, and_iff_left fun h => hstrip h.1]
      rfl
  exact ⟨hiff, fun h u => Percent.escape_eq_encode (hiff.not.mpr h)⟩

def markQuery : Text := .ofString "\\b a\\"

/-- The last word, which ends with a backslash, meets the first one; in the order of the query the
two have a blank between them. -/
theorem transform_mark_iff_lastFirst :
    ¬ Percent.escapeMark <:+: markQuery ∧
      transform { wordPositions := [-1, 0] } markQuery = .ofString "a\\\\b" ∧
      ForgesMark { wordPositions := [-1, 0] } markQuery ∧
      ¬ ForgesMark { wordPositions := [0, -1], reverse := true, stripCommas := true } markQuery ∧
      Percent.escape ⟨[]⟩
          (transform { wordPositions := [0, -1], reverse := true, stripCommas := true } markQuery) =
        .ofString "a\\ \\b" := by
  have hq : ¬ Percent.escapeMark <:+: markQuery := by decide +kernel
  have hmet : transform { wordPositions := [-1, 0] } markQuery = .ofString "a\\\\b" := by
    decide +kernel
  obtain ⟨hiff, -⟩ := transform_mark_iff hq { wordPositions := [-1, 0] }
  obtain ⟨hiff', hescape⟩ := transform_mark_iff hq
    { wordPositions := [0, -1], reverse := true, stripCommas := true }
  have hapart := hiff'.not.mp (by decide +kernel)
  refine ⟨hq, hmet, hiff.mp (by rw [hmet]; decide +kernel), hapart, ?_⟩
  rw [hescape hapart]
  decide +kernel

def commaQuery : Text := .ofString "\\%2C\\\""

/-- A comma is dropped, and the quote after the second backslash is kept although no mark was
written. -/
theorem escapeMark_infix_transform_dropped :
    ¬ Percent.escapeMark <:+: commaQuery ∧
      Percent.escapeMark <:+: transform { stripCommas := true } commaQuery ∧
      Percent.escape Config.standard.querySet (transform { stripCommas := true } commaQuery) =
        .ofString "\"" := by
  decide +kernel

end Query

end SearchTemplate
