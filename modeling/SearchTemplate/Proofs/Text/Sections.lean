import SearchTemplate.Text.Sections

/-!
# Cutting and joining texts

A pattern that recognises written forms only (`Pattern.Recognizes`) cuts a text without losing
anything, and its sections are the only ones of their kind (`Sections.scan_eq_iff`): joined again
they are the text, each span is recognised where it stands, and no span starts inside the literal
text (`Sections.Cut`). Splitting at a delimiter is the case of one written form.
-/

namespace SearchTemplate

variable {α : Type}

/-- A text that an append starts with lies in the first part, or reaches into the second one. -/
theorem Text.prefix_or_exists_of_append {d y t : Text} (h : d <+: y ++ t) :
    d <+: y ∨ ∃ b, b ≠ [] ∧ d = y ++ b ∧ b <+: t := by
  obtain ⟨later, heq⟩ := h
  rcases List.append_eq_append_iff.mp heq with ⟨rest, rfl, -⟩ | ⟨b, rfl, rfl⟩
  · exact .inl (List.prefix_append _ _)
  · by_cases hb : b = []
    · exact .inl (by simp [hb])
    · exact .inr ⟨b, hb, rfl, List.prefix_append _ _⟩

namespace Pattern

/-- No span starts at the head of the text. -/
def Misses (m : Pattern α) (t : Text) : Prop := ∀ a n, m t ≠ some (a, n + 1)

/-- No span starts inside `lit` where `later` follows it. -/
def Skips (m : Pattern α) : Text → Text → Prop
  | [], _ => True
  | s :: lit, later => m.Misses (s :: (lit ++ later)) ∧ Skips m lit later

/-- What `m` recognises is the written form of the value that it gives. -/
structure Recognizes (m : Pattern α) (write : α → Text) : Prop where
  span : ∀ {t a n}, m t = some (a, n) → write a <+: t ∧ n = (write a).length
  ne_nil : ∀ a, write a ≠ []

theorem skips_iff {m : Pattern α} {lit later : Text} :
    m.Skips lit later ↔ ∀ y, y <:+ lit → y ≠ [] → m.Misses (y ++ later) := by
  induction lit with
  | nil =>
    refine ⟨fun _ y hy hne => absurd (List.suffix_nil.mp hy) hne, fun _ => trivial⟩
  | cons s lit ih =>
    simp only [Skips, ih, List.suffix_cons_iff]
    refine ⟨?_, ?_⟩
    · rintro ⟨hs, hlit⟩ y (rfl | hy) hne
      · exact hs
      · exact hlit y hy hne
    · intro h
      exact ⟨h (s :: lit) (.inl rfl) (List.cons_ne_nil _ _), fun y hy => h y (.inr hy)⟩

theorem Recognizes.length_pos {m : Pattern α} {write : α → Text} (hm : m.Recognizes write)
    (a : α) : 0 < (write a).length := List.length_pos_iff.mpr (hm.ne_nil a)

/-- A pattern that recognises written forms misses a text or takes one off its head. -/
theorem Recognizes.misses_or {m : Pattern α} {write : α → Text} (hm : m.Recognizes write)
    (t : Text) : m.Misses t ∨ ∃ a later, t = write a ++ later ∧
      m (write a ++ later) = some (a, (write a).length) := by
  cases h : m t with
  | none => exact .inl fun a n hn => by rw [h] at hn; cases hn
  | some found =>
    obtain ⟨a, n⟩ := found
    obtain ⟨⟨later, rfl⟩, rfl⟩ := hm.span h
    exact .inr ⟨a, later, rfl, h⟩

end Pattern

namespace Sections

open Pattern

variable {m : Pattern α}

/-! ## One step of the reading -/

theorem scanFrom_eq_drop (m : Pattern α) (k : Nat) (t : Text) :
    scanFrom m k t = scan m (t.drop k) := by
  induction t generalizing k with
  | nil => cases k <;> rfl
  | cons s rest ih =>
    cases k with
    | zero => rfl
    | succ k => exact ih k

@[simp] theorem scan_nil (m : Pattern α) : scan m [] = ⟨[], []⟩ := rfl

theorem scan_cons_of_misses {s : Symbol} {rest : Text} (h : m.Misses (s :: rest)) :
    scan m (s :: rest) = (scan m rest).cons s := by
  unfold scan
  rw [scanFrom]
  split
  · rename_i a n hn
    exact absurd hn (h a n)
  · rfl

theorem scan_append_of_eq_some {w later : Text} {a : α} (hne : w ≠ [])
    (h : m (w ++ later) = some (a, w.length)) :
    scan m (w ++ later) = (scan m later).mark a := by
  cases w with
  | nil => exact absurd rfl hne
  | cons s w =>
    have hstep : scan m (s :: (w ++ later)) = (scanFrom m w.length (w ++ later)).mark a := by
      unfold scan
      rw [scanFrom]
      simp only [List.cons_append, List.length_cons] at h
      rw [h]
    rw [List.cons_append, hstep, scanFrom_eq_drop, List.drop_left]

theorem scan_append_of_skips {lit later : Text} (h : m.Skips lit later) :
    scan m (lit ++ later) = ⟨lit ++ (scan m later).head, (scan m later).tail⟩ := by
  induction lit with
  | nil => rfl
  | cons s lit ih => rw [List.cons_append, scan_cons_of_misses h.1, ih h.2]; rfl

/-- Induction over the reading of a text. -/
theorem scan_induction {write : α → Text} (hm : m.Recognizes write)
    {P : Text → Sections α → Prop} (nil : P [] ⟨[], []⟩)
    (literal : ∀ s rest, m.Misses (s :: rest) → P rest (scan m rest) →
      P (s :: rest) ((scan m rest).cons s))
    (span : ∀ a later, m (write a ++ later) = some (a, (write a).length) →
      P later (scan m later) → P (write a ++ later) ((scan m later).mark a)) :
    ∀ t, P t (scan m t) := by
  intro t
  induction hn : t.length using Nat.strongRecOn generalizing t with
  | _ n ih =>
    rcases hm.misses_or t with h | ⟨a, later, rfl, h⟩
    · cases t with
      | nil => exact nil
      | cons s rest =>
        rw [scan_cons_of_misses h]
        exact literal s rest h (ih rest.length (by rw [← hn, List.length_cons]; omega) rest rfl)
    · have hpos := hm.length_pos a
      rw [scan_append_of_eq_some (hm.ne_nil a) h]
      exact span a later h
        (ih later.length (by rw [← hn, List.length_append]; omega) later rfl)

/-! ## The sections of a text -/

/-- The text of the sections, in which `write a` is the span with the value `a`. -/
def text (write : α → Text) (p : Sections α) : Text :=
  p.head ++ p.tail.flatMap fun x => write x.1 ++ x.2

@[simp] theorem text_cons (write : α → Text) (s : Symbol) (p : Sections α) :
    (p.cons s).text write = s :: p.text write := rfl

@[simp] theorem text_mark (write : α → Text) (a : α) (p : Sections α) :
    (p.mark a).text write = write a ++ p.text write := by
  simp [text, mark]

/-- The spans of the sections stand where `m` recognises them, and nowhere else. -/
def CutFrom (m : Pattern α) (write : α → Text) (lit : Text) : List (α × Text) → Prop
  | [] => m.Skips lit []
  | (a, after) :: rest =>
    let later := write a ++ text write ⟨after, rest⟩
    m.Skips lit later ∧ m later = some (a, (write a).length) ∧ CutFrom m write after rest

def Cut (m : Pattern α) (write : α → Text) (p : Sections α) : Prop :=
  CutFrom m write p.head p.tail

theorem text_scan {write : α → Text} (hm : m.Recognizes write) (t : Text) :
    (scan m t).text write = t := by
  induction t using scan_induction hm with
  | nil => rfl
  | literal s rest _ ih => rw [text_cons, ih]
  | span a later _ ih => rw [text_mark, ih]

theorem cut_scan {write : α → Text} (hm : m.Recognizes write) (t : Text) :
    Cut m write (scan m t) := by
  induction t using scan_induction hm with
  | nil => trivial
  | literal s rest hs ih =>
    rw [← text_scan hm rest] at hs
    generalize scan m rest = p at hs ih ⊢
    obtain ⟨lit, _ | ⟨⟨a, after⟩, tail⟩⟩ := p
    · exact ⟨by simpa [text] using hs, ih⟩
    · exact ⟨⟨by simpa [text] using hs, ih.1⟩, ih.2⟩
  | span a later ha ih =>
    have hlater : text write ⟨(scan m later).head, (scan m later).tail⟩ = later :=
      text_scan hm later
    refine ⟨trivial, ?_, ih⟩
    rwa [hlater]

theorem scan_text_of_cut {write : α → Text} (hm : m.Recognizes write) {p : Sections α}
    (h : Cut m write p) : scan m (p.text write) = p := by
  obtain ⟨lit, tail⟩ := p
  induction tail generalizing lit with
  | nil =>
    have hskip : m.Skips lit [] := h
    simpa [text] using scan_append_of_skips hskip
  | cons x rest ih =>
    obtain ⟨a, after⟩ := x
    obtain ⟨hskip, hspan, hrest⟩ := h
    have hstep := scan_append_of_eq_some (hm.ne_nil a) hspan
    have htext : text write ⟨lit, (a, after) :: rest⟩
        = lit ++ (write a ++ text write ⟨after, rest⟩) := by simp [text]
    rw [htext, scan_append_of_skips hskip, hstep, ih after hrest]
    simp [mark]

/-- The sections of a text are the only ones that are cut where the pattern says. -/
theorem scan_eq_iff {write : α → Text} (hm : m.Recognizes write) {t : Text} {p : Sections α} :
    scan m t = p ↔ p.text write = t ∧ Cut m write p := by
  refine ⟨?_, ?_⟩
  · rintro rfl
    exact ⟨text_scan hm t, cut_scan hm t⟩
  · rintro ⟨rfl, h⟩
    exact scan_text_of_cut hm h

/-! ## Pieces of a text, whatever the pattern is -/

@[simp] theorem pieces_cons (s : Symbol) (p : Sections α) :
    (p.cons s).pieces = (s :: p.head) :: p.tail.map Prod.snd := rfl

@[simp] theorem pieces_mark (a : α) (p : Sections α) : (p.mark a).pieces = [] :: p.pieces := rfl

theorem head_scan_isPrefix (m : Pattern α) (t : Text) : (scan m t).head <+: t := by
  induction t with
  | nil => exact List.nil_prefix
  | cons s rest ih =>
    unfold scan
    rw [scanFrom]
    split
    · exact List.nil_prefix
    · exact List.cons_prefix_cons.mpr ⟨rfl, ih⟩

theorem infix_of_mem_pieces {m : Pattern α} {k : Nat} {t w : Text}
    (h : w ∈ (scanFrom m k t).pieces) : w <:+: t := by
  fun_induction scanFrom m k t with
  | case1 k =>
    rw [pieces, List.map_nil, List.mem_singleton] at h
    subst h
    exact List.nil_infix
  | case2 k s rest ih => exact List.infix_cons (ih h)
  | case3 s rest a n _ ih =>
    rcases List.mem_cons.mp h with rfl | hw
    · exact List.nil_infix
    · exact List.infix_cons (ih hw)
  | case4 s rest _ ih =>
    rcases List.mem_cons.mp h with rfl | hw
    · exact (List.cons_prefix_cons.mpr ⟨rfl, head_scan_isPrefix m rest⟩).isInfix
    · exact List.infix_cons (ih (List.mem_cons_of_mem _ hw))

end Sections

end SearchTemplate
