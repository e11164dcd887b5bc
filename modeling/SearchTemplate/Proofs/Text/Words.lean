import SearchTemplate.Proofs.Text.Runs

/-!
# Words of a text

A text is blanks and then words one after the other: each is a run of visible symbols with the
blanks after it, and only the last one may have none (`Text.exists_words`). What cuts a text into
words finds them again (`Text.words_eq`), and their visible parts are the maximal runs of visible
symbols of the text (`Text.visibleRuns_eq`).
-/

namespace SearchTemplate.Text

variable {t u v lead : Text}

/-- The maximal runs of visible symbols. -/
def visibleRuns (t : Text) : List Text := t.runs.filter (!·.isBlank)

/-- Visible symbols with the blanks after them. -/
structure Word where
  visible : Text
  blanks : Text
  visible_ne_nil : visible ≠ []
  isVisible : ∀ s ∈ visible, s.isBlank = false
  isBlank : blanks.isBlank = true

namespace Word

def text (w : Word) : Text := w.visible ++ w.blanks

/-- The word without the blanks after it. -/
def bare (w : Word) : Word := { w with blanks := [], isBlank := rfl }

theorem startsVisible_append (w : Word) (t : Text) : (w.visible ++ t).StartsVisible :=
  (trimmed_of_forall w.isVisible).starts.append w.visible_ne_nil t

theorem endsVisible_append (w : Word) (t : Text) : (t ++ w.visible).EndsVisible :=
  (trimmed_of_forall w.isVisible).ends.append w.visible_ne_nil t

end Word

variable {w : Word} {ws : List Word}

/-- The words one after the other. -/
def ofWords (ws : List Word) : Text := ws.flatMap Word.text

theorem ofWords_cons (w : Word) (ws : List Word) : ofWords (w :: ws) = w.text ++ ofWords ws := rfl

theorem ofWords_append (ws ws' : List Word) : ofWords (ws ++ ws') = ofWords ws ++ ofWords ws' :=
  List.flatMap_append

theorem startsVisible_ofWords (ws : List Word) : (ofWords ws).StartsVisible := by
  cases ws with
  | nil =>
    intro s hs
    cases hs
  | cons w ws =>
    rw [ofWords_cons, Word.text, List.append_assoc]
    exact w.startsVisible_append _

/-- All words but the last one have blanks after them. -/
def Separate (ws : List Word) : Prop := ws.IsChain fun w _ => w.blanks ≠ []

/-- Every text is blanks and words. -/
theorem exists_words (t : Text) : ∃ (lead : Text) (ws : List Word),
    lead.isBlank = true ∧ Separate ws ∧ t = lead ++ ofWords ws := by
  induction t with
  | nil => exact ⟨[], [], rfl, List.isChain_nil, rfl⟩
  | cons s t ih =>
    obtain ⟨lead, ws, hlead, hws, rfl⟩ := ih
    by_cases hs : s.isBlank = true
    · refine ⟨s :: lead, ws, ?_, hws, rfl⟩
      rw [isBlank_cons, hs, hlead]
      rfl
    have hvisible : s.isBlank = false := Bool.eq_false_iff.mpr hs
    -- a visible symbol goes on with the word right after it, or is a word by itself
    match lead, ws with
    | x :: lead, ws =>
      refine ⟨[], ⟨[s], x :: lead, by simp, by simpa using hvisible, hlead⟩ :: ws, rfl, ?_, rfl⟩
      exact List.isChain_cons.mpr ⟨fun _ _ => List.cons_ne_nil _ _, hws⟩
    | [], [] =>
      exact ⟨[], [⟨[s], [], by simp, by simpa using hvisible, rfl⟩], rfl,
        List.isChain_singleton _, rfl⟩
    | [], w :: ws =>
      refine ⟨[], ⟨s :: w.visible, w.blanks, by simp, ?_, w.isBlank⟩ :: ws, rfl, ?_, rfl⟩
      · exact List.forall_mem_cons.mpr ⟨hvisible, w.isVisible⟩
      · exact List.isChain_cons.mpr (List.isChain_cons.mp hws)

theorem StartsVisible.exists_words (h : t.StartsVisible) :
    ∃ ws, Separate ws ∧ t = ofWords ws := by
  obtain ⟨lead, ws, hlead, hws, rfl⟩ := Text.exists_words t
  cases lead with
  | nil => exact ⟨ws, hws, rfl⟩
  | cons s lead =>
    rw [isBlank_cons, h s rfl] at hlead
    cases hlead

/-! ## The last word -/

theorem ofWords_singleton (w : Word) : ofWords [w] = w.text := List.append_nil _

theorem trimEnd_ofWords (ws : List Word) (w : Word) :
    (ofWords (ws ++ [w])).trimEnd = ofWords (ws ++ [w.bare]) := by
  have hblanks : w.blanks.trimEnd = [] := trimEnd_eq_nil_iff.mpr w.isBlank
  rw [ofWords_append, ofWords_singleton, Word.text, ← List.append_assoc,
    trimEnd_append_of_endsVisible (w.endsVisible_append _), hblanks, ofWords_append,
    ofWords_singleton, Word.text, ← List.append_assoc]
  rfl

theorem endsVisible_append_ofWords (hw : w.blanks = []) (t : Text) (ws : List Word) :
    (t ++ ofWords (ws ++ [w])).EndsVisible := by
  rw [ofWords_append, ofWords_singleton, Word.text, hw, List.append_nil, ← List.append_assoc]
  exact w.endsVisible_append _

theorem separate_concat (h : ∀ w ∈ ws, w.blanks ≠ []) (w : Word) : Separate (ws ++ [w]) := by
  induction ws with
  | nil => exact List.isChain_singleton w
  | cons v ws ih =>
    obtain ⟨hv, hws⟩ := List.forall_mem_cons.mp h
    exact List.isChain_cons.mpr ⟨fun _ _ => hv, ih hws⟩

/-- Every word has blanks after it but the one that ends the text. -/
theorem Separate.blanks_ne_nil (hws : Separate ws) {i : Nat} (hi : ws[i]? = some w)
    (h : ¬ (lead ++ ofWords ws).EndsVisible ∨ i ≠ ws.length - 1) : w.blanks ≠ [] := by
  obtain ⟨hlt, rfl⟩ := List.getElem?_eq_some_iff.mp hi
  by_cases hlast : i = ws.length - 1
  · subst hlast
    have hne : ws ≠ [] := List.ne_nil_of_length_pos (Nat.zero_lt_of_lt hlt)
    intro hnil
    rw [← List.getLast_eq_getElem hne] at hnil
    have hends := endsVisible_append_ofWords hnil lead ws.dropLast
    rw [List.dropLast_concat_getLast hne] at hends
    exact h.resolve_right (not_not_intro rfl) hends
  · exact List.isChain_iff_getElem.mp hws i (by omega)

/-! ## Cutting into words -/

theorem Separate.tail (h : Separate (w :: ws)) : Separate ws := (List.isChain_cons.mp h).2

/-- A word that another one follows ends with a blank. -/
theorem Separate.ends (h : Separate (w :: ws)) :
    ∀ x ∈ w.text.getLast?, ∀ y ∈ (ofWords ws).head?, x.isBlank = true ∧ y.isBlank = false := by
  intro x hx y hy
  refine ⟨?_, startsVisible_ofWords ws y hy⟩
  cases ws with
  | nil => cases hy
  | cons w' ws =>
    have hblanks : w.blanks ≠ [] := (List.isChain_cons.mp h).1 w' rfl
    rw [Word.text, List.getLast?_append_of_ne_nil _ hblanks] at hx
    exact List.all_eq_true.mp w.isBlank x (List.mem_of_mem_getLast? hx)

/-- A word goes on as long as no visible symbol follows a blank. -/
theorem Word.isChain_text (w : Word) :
    w.text.IsChain fun x y => (!x.isBlank || y.isBlank) = true := by
  have hvisible : w.visible.IsChain fun x y => (!x.isBlank || y.isBlank) = true :=
    List.Pairwise.isChain (List.pairwise_of_forall_mem_list fun x hx _ _ => by
      rw [w.isVisible x hx]; rfl)
  have hblanks : w.blanks.IsChain fun x y => (!x.isBlank || y.isBlank) = true :=
    List.Pairwise.isChain (List.pairwise_of_forall_mem_list fun _ _ y hy => by
      rw [List.all_eq_true.mp w.isBlank y hy, Bool.or_true])
  refine hvisible.append hblanks fun x hx y _ => ?_
  rw [w.isVisible x (List.mem_of_mem_getLast? hx)]
  rfl

theorem Word.text_ne_nil (w : Word) : w.text ≠ [] :=
  List.append_ne_nil_of_left_ne_nil w.visible_ne_nil _

theorem flatten_words (t : Text) : t.words.flatten = t.trimStart := by
  rw [words, List.flatten_splitBy]

theorem words_ofWords (hws : Separate ws) : (ofWords ws).words = ws.map Word.text := by
  rw [words, (startsVisible_ofWords ws).trimStart_eq]
  induction ws with
  | nil => rfl
  | cons w ws ih =>
    have hjoint : ∀ x ∈ w.text.getLast?, ∀ y ∈ (ofWords ws).head?,
        (!x.isBlank || y.isBlank) = false := by
      intro x hx y hy
      obtain ⟨hx, hy⟩ := hws.ends x hx y hy
      rw [hx, hy]
      rfl
    rw [ofWords_cons, List.splitBy_append hjoint, ih hws.tail,
      List.splitBy_of_isChain w.text_ne_nil w.isChain_text]
    rfl

theorem words_eq (hlead : lead.isBlank = true) (hws : Separate ws) :
    (lead ++ ofWords ws).words = ws.map Word.text := by
  rw [words, trimStart_append hlead]
  exact words_ofWords hws

/-! ## Runs -/

/-- The runs of a word, and then those of the words after it. -/
theorem runs_ofWords_cons (hws : Separate (w :: ws)) :
    (ofWords (w :: ws)).runs = w.visible :: (w.blanks.runs ++ (ofWords ws).runs) := by
  have hword : ∀ x ∈ w.visible.getLast?, ∀ y ∈ w.blanks.head?, x.isBlank ≠ y.isBlank := by
    intro x hx y hy
    rw [w.isVisible x (List.mem_of_mem_getLast? hx),
      List.all_eq_true.mp w.isBlank y (List.mem_of_mem_head? hy)]
    decide
  have hjoint : ∀ x ∈ w.text.getLast?, ∀ y ∈ (ofWords ws).head?, x.isBlank ≠ y.isBlank := by
    intro x hx y hy
    obtain ⟨hx, hy⟩ := hws.ends x hx y hy
    rw [hx, hy]
    decide
  rw [ofWords_cons, runs_append hjoint, Word.text, runs_append hword,
    runs_of_uniform (uniform_of_forall w.visible_ne_nil w.isVisible)]
  rfl

theorem isBlank_of_mem_runs (h : t.isBlank = true) : ∀ r ∈ t.runs, r.isBlank = true := by
  intro r hr
  refine List.all_eq_true.mpr fun s hs => List.all_eq_true.mp h s ?_
  rw [← flatten_runs t]
  exact List.mem_flatten.mpr ⟨r, hr, hs⟩

theorem visibleRuns_of_isBlank (h : t.isBlank = true) : t.visibleRuns = [] := by
  rw [visibleRuns, List.filter_eq_nil_iff]
  intro r hr
  rw [isBlank_of_mem_runs h r hr]
  decide

theorem visibleRuns_ofWords (hws : Separate ws) :
    (ofWords ws).visibleRuns = ws.map Word.visible := by
  induction ws with
  | nil => rfl
  | cons w ws ih =>
    have hblanks : w.blanks.runs.filter (!·.isBlank) = [] := visibleRuns_of_isBlank w.isBlank
    have hvisible : w.visible.isBlank = false := isBlank_eq_of_forall w.visible_ne_nil w.isVisible
    rw [visibleRuns, runs_ofWords_cons hws, List.filter_cons_of_pos (by rw [hvisible]; rfl),
      List.filter_append, hblanks, List.nil_append, List.map_cons, ← ih hws.tail]
    rfl

theorem visibleRuns_eq (hlead : lead.isBlank = true) (hws : Separate ws) :
    (lead ++ ofWords ws).visibleRuns = ws.map Word.visible := by
  have hjoint : ∀ x ∈ lead.getLast?, ∀ y ∈ (ofWords ws).head?, x.isBlank ≠ y.isBlank := by
    intro x hx y hy
    rw [List.all_eq_true.mp hlead x (List.mem_of_mem_getLast? hx), startsVisible_ofWords ws y hy]
    decide
  have hblanks : lead.runs.filter (!·.isBlank) = [] := visibleRuns_of_isBlank hlead
  rw [visibleRuns, runs_append hjoint, List.filter_append, hblanks, ← visibleRuns_ofWords hws]
  rfl

/-- The visible symbols of words are those of their visible parts. -/
theorem filter_ofWords (ws : List Word) :
    (ofWords ws).filter (!·.isBlank) = (ws.map Word.visible).flatten := by
  induction ws with
  | nil => rfl
  | cons w ws ih =>
    have hvisible : w.visible.filter (!·.isBlank) = w.visible :=
      List.filter_eq_self.mpr fun s hs => by rw [w.isVisible s hs]; rfl
    have hblanks : w.blanks.filter (!·.isBlank) = [] :=
      List.filter_eq_nil_iff.mpr fun s hs => by
        rw [List.all_eq_true.mp w.isBlank s hs]
        decide
    rw [ofWords_cons, Word.text, List.filter_append, List.filter_append, hvisible, hblanks, ih,
      List.append_nil, List.map_cons, List.flatten_cons]

/-! ## Words at their places -/

/-- The runs joined, with `f` applied to the visible ones, which are counted from `i` on. -/
def mapVisibleFrom (f : Nat → Text → Text) : Nat → List Text → Text
  | _, [] => []
  | i, r :: rs =>
    if r.isBlank then r ++ mapVisibleFrom f i rs else f i r ++ mapVisibleFrom f (i + 1) rs

/-- The text with `f` applied to each word and its number from zero, and with its blanks as they
are. -/
def mapWords (f : Nat → Text → Text) (t : Text) : Text := mapVisibleFrom f 0 t.runs

theorem mapVisibleFrom_append_of_isBlank (f : Nat → Text → Text) (i : Nat) {bs : List Text}
    (h : ∀ r ∈ bs, r.isBlank = true) (rs : List Text) :
    mapVisibleFrom f i (bs ++ rs) = bs.flatten ++ mapVisibleFrom f i rs := by
  induction bs with
  | nil => rfl
  | cons b bs ih =>
    obtain ⟨hb, hbs⟩ := List.forall_mem_cons.mp h
    rw [List.cons_append, mapVisibleFrom, if_pos hb, ih hbs, List.flatten_cons, List.append_assoc]

theorem mapVisibleFrom_ofWords (f : Nat → Text → Text) (i : Nat) (hws : Separate ws) :
    mapVisibleFrom f i (ofWords ws).runs =
      (ws.mapIdx fun k w => f (i + k) w.visible ++ w.blanks).flatten := by
  induction ws generalizing i with
  | nil => rfl
  | cons w ws ih =>
    have hvisible : ¬ w.visible.isBlank = true :=
      Bool.eq_false_iff.mp (isBlank_eq_of_forall w.visible_ne_nil w.isVisible)
    rw [runs_ofWords_cons hws, mapVisibleFrom, if_neg hvisible,
      mapVisibleFrom_append_of_isBlank f _ (isBlank_of_mem_runs w.isBlank), flatten_runs,
      ih _ hws.tail, List.mapIdx_cons, List.flatten_cons, List.append_assoc]
    simp only [Nat.add_zero, Nat.add_assoc, Nat.add_comm 1]

theorem mapWords_ofWords (f : Nat → Text → Text) (hws : Separate ws) :
    (ofWords ws).mapWords f = (ws.mapIdx fun i w => f i w.visible ++ w.blanks).flatten := by
  rw [mapWords, mapVisibleFrom_ofWords f 0 hws]
  simp only [Nat.zero_add]

end SearchTemplate.Text
