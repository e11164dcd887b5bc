import SearchTemplate.Placeholder.Rules
import SearchTemplate.Proofs.Placeholder.Directive

/-!
# Rules for placeholders and their order

`Placeholder.Breaks c p n f` says that `p` breaks rule number `n`, which is reported as `f`. The
rules on position, delimiter and number come first, then the grammar of options, then one rule for
each option in written order. Reading a placeholder reports the first broken rule
(`Placeholder.read_eq_error_iff`) and succeeds where none is broken (`Placeholder.read_ok_iff`).
-/

namespace SearchTemplate.Placeholder

inductive Breaks (c : Config) (p : Placeholder) : Nat → Fault → Prop where
  | opensUrl : p.occurrence = 1 → p.before = [] → Breaks c p 0 .opensUrl
  | missingDelimiter : p.delimiter = [] → Breaks c p 1 .missingDelimiter
  | delimiterTooLong : c.maxDelimiterLength < p.delimiter.length →
      Breaks c p 2 (.delimiterTooLong p.delimiter c.maxDelimiterLength)
  | spaceDelimiter : p.delimiter = [.char ' '] → Breaks c p 3 .spaceDelimiter
  | tooMany : (c.maxPlaceholders : Int) < p.occurrence → Breaks c p 4 (.tooMany c.maxPlaceholders)
  | invalidOptions : (∀ ds, ¬ Directive.Row p.options ds) → Breaks c p 5 .invalidOptions
  /-- The directive at index `before.length` is bad. -/
  | directive {before after : List Directive} {d : Directive} {f : Fault} :
      Directive.Row p.options (before ++ d :: after) → d.Bad c.maxPlaceholders f →
      Breaks c p (6 + before.length) f

/-- The first rule that `p` breaks is reported as `f`. -/
def FirstBroken (c : Config) (p : Placeholder) (f : Fault) : Prop :=
  ∃ n, p.Breaks c n f ∧ ∀ k, k < n → ∀ g, ¬ p.Breaks c k g

def KeepsRules (c : Config) (p : Placeholder) : Prop := ∀ n f, ¬ p.Breaks c n f

variable {c : Config} {p : Placeholder}

/-- A broken rule has one report. -/
theorem Breaks.fault_eq {n : Nat} {f : Fault} (h : p.Breaks c n f) :
    ∀ {m : Nat} {g : Fault}, p.Breaks c m g → n = m → f = g := by
  intro m g h' hnm
  cases h with
  | @directive before after d f hrow hbad =>
    cases h' with
    | @directive before' after' d' g hrow' hbad' =>
      have hlen : before.length = before'.length := by omega
      obtain ⟨-, htail⟩ := List.append_inj (hrow.unique hrow') hlen
      obtain ⟨rfl, -⟩ := List.cons.inj htail
      rw [← Directive.fault?_eq_some_iff] at hbad hbad'
      exact Option.some.inj (hbad.symm.trans hbad')
    | _ => omega
  | _ => cases h' <;> first | rfl | omega

theorem FirstBroken.unique {f g : Fault} (hf : p.FirstBroken c f) (hg : p.FirstBroken c g) :
    f = g := by
  obtain ⟨n, hn, hbelow⟩ := hf
  obtain ⟨m, hm, hbelow'⟩ := hg
  rcases Nat.lt_trichotomy n m with hlt | rfl | hlt
  · exact absurd hn (hbelow' n hlt f)
  · exact hn.fault_eq hm rfl
  · exact absurd hm (hbelow m hlt g)

/-! ## Rules on position, delimiter and number -/

/-- What the first five rules ask for. -/
theorem Breaks.place {n : Nat} {f : Fault} (h : p.Breaks c n f) :
    (n = 0 ∧ p.occurrence = 1 ∧ p.before = []) ∨ (n = 1 ∧ p.delimiter = []) ∨
      (n = 2 ∧ c.maxDelimiterLength < p.delimiter.length) ∨ (n = 3 ∧ p.delimiter = space) ∨
      (n = 4 ∧ (c.maxPlaceholders : Int) < p.occurrence) ∨ 5 ≤ n := by
  cases h with
  | opensUrl hocc hbefore => exact .inl ⟨rfl, hocc, hbefore⟩
  | missingDelimiter hd => exact .inr (.inl ⟨rfl, hd⟩)
  | delimiterTooLong hlen => exact .inr (.inr (.inl ⟨rfl, hlen⟩))
  | spaceDelimiter hspace => exact .inr (.inr (.inr (.inl ⟨rfl, hspace⟩)))
  | tooMany hmany => exact .inr (.inr (.inr (.inr (.inl ⟨rfl, hmany⟩))))
  | _ => omega

theorem firstBroken_of_fault? {f : Fault} (h : p.fault? c = some f) : p.FirstBroken c f := by
  unfold fault? at h
  split at h
  · rename_i h0
    cases h
    exact ⟨0, .opensUrl h0.1 h0.2, fun k hk => by omega⟩
  rename_i h0
  split at h
  · rename_i h1
    cases h
    refine ⟨1, .missingDelimiter h1, fun k hk g hg => ?_⟩
    have hplace := hg.place
    simp only [h0, and_false, false_or] at hplace
    omega
  rename_i h1
  split at h
  · rename_i h2
    cases h
    refine ⟨2, .delimiterTooLong h2, fun k hk g hg => ?_⟩
    have hplace := hg.place
    simp only [h0, h1, and_false, false_or] at hplace
    omega
  rename_i h2
  split at h
  · rename_i h3
    cases h
    refine ⟨3, .spaceDelimiter h3, fun k hk g hg => ?_⟩
    have hplace := hg.place
    simp only [h0, h1, h2, and_false, false_or] at hplace
    omega
  rename_i h3
  split at h
  · rename_i h4
    cases h
    refine ⟨4, .tooMany h4, fun k hk g hg => ?_⟩
    have hplace := hg.place
    simp only [h0, h1, h2, h3, and_false, false_or] at hplace
    omega
  · cases h

theorem fault?_none_iff : p.fault? c = none ↔ ¬ (p.occurrence = 1 ∧ p.before = []) ∧
    p.delimiter ≠ [] ∧ ¬ c.maxDelimiterLength < p.delimiter.length ∧ p.delimiter ≠ space ∧
    ¬ (c.maxPlaceholders : Int) < p.occurrence := by
  grind [fault?]

theorem not_breaks_of_fault? (h : p.fault? c = none) {n : Nat} (hn : n < 5) (f : Fault) :
    ¬ p.Breaks c n f := by
  obtain ⟨h0, h1, h2, h3, h4⟩ := fault?_none_iff.mp h
  intro hf
  have hplace := hf.place
  simp only [h0, h1, h2, h3, h4, and_false, false_or] at hplace
  omega

/-! ## Options -/

theorem read_of_fault? {f : Fault} (h : p.fault? c = some f) : p.read c = .error f := by
  rw [read, check, h]
  rfl

theorem read_of_fault?_none (h : p.fault? c = none) : p.read c = p.readOptions c := by
  rw [read, check, h]
  rfl

theorem readOptions_of_row {ds : List Directive} (h : Directive.Row p.options ds) :
    p.readOptions c = Options.ofDirectives c.maxPlaceholders {} ds := by
  rw [readOptions, Options.ofText, Directive.readAll?_eq_some_iff.mpr h]

theorem readOptions_of_not_row (h : ∀ ds, ¬ Directive.Row p.options ds) :
    p.readOptions c = .error .invalidOptions := by
  have hnone : Directive.readAll? p.options = none := by
    rw [Option.eq_none_iff_forall_ne_some]
    exact fun ds hds => h ds (Directive.readAll?_eq_some_iff.mp hds)
  rw [readOptions, Options.ofText, hnone]

theorem firstBroken_of_readOptions {f : Fault} (hplace : p.fault? c = none)
    (h : p.readOptions c = .error f) : p.FirstBroken c f := by
  have hfirst : ∀ k, k < 5 → ∀ g, ¬ p.Breaks c k g := fun k hk => not_breaks_of_fault? hplace hk
  by_cases hrow : ∃ ds, Directive.Row p.options ds
  · obtain ⟨ds, hds⟩ := hrow
    rw [readOptions_of_row hds, Options.ofDirectives_eq_error_iff] at h
    obtain ⟨before, d, after, rfl, hbad, hgood⟩ := h
    refine ⟨6 + before.length, .directive hds hbad, fun k hk g hg => ?_⟩
    by_cases hk5 : k < 5
    · exact hfirst k hk5 g hg
    cases hg with
    | invalidOptions hnot => exact hnot _ hds
    | @directive before' after' d' _ hrow' hbad' =>
      -- the shorter list of directives ends at a good one
      have heq := hds.unique hrow'
      have hlt : before'.length < before.length := by omega
      have hget := congrArg (·[before'.length]?) heq
      simp only [List.getElem?_append_left hlt, List.getElem?_append_right (Nat.le_refl _),
        Nat.sub_self, List.getElem?_cons_zero] at hget
      exact hgood d' (List.mem_of_getElem? hget) g hbad'
    | _ => omega
  · have hnot : ∀ ds, ¬ Directive.Row p.options ds := fun ds hds => hrow ⟨ds, hds⟩
    rw [readOptions_of_not_row hnot] at h
    cases h
    refine ⟨5, .invalidOptions hnot, fun k hk g hg => hfirst k hk g hg⟩

theorem keepsRules_of_readOptions {o : Options} (hplace : p.fault? c = none)
    (h : p.readOptions c = .ok o) : p.KeepsRules c := by
  intro n f hf
  by_cases hn : n < 5
  · exact not_breaks_of_fault? hplace hn f hf
  cases hf with
  | invalidOptions hnot =>
    rw [readOptions_of_not_row hnot] at h
    cases h
  | directive hrow hbad =>
    rw [readOptions_of_row hrow, Options.ofDirectives_eq_ok_iff] at h
    exact h.1 _ (by simp) f hbad
  | _ => omega

/-! ## Reading a placeholder -/

theorem firstBroken_of_read {f : Fault} (h : p.read c = .error f) : p.FirstBroken c f := by
  cases hplace : p.fault? c with
  | some g =>
    rw [read_of_fault? hplace] at h
    cases h
    exact firstBroken_of_fault? hplace
  | none =>
    rw [read_of_fault?_none hplace] at h
    exact firstBroken_of_readOptions hplace h

theorem keepsRules_of_read {o : Options} (h : p.read c = .ok o) : p.KeepsRules c := by
  cases hplace : p.fault? c with
  | some g =>
    rw [read_of_fault? hplace] at h
    cases h
  | none =>
    rw [read_of_fault?_none hplace] at h
    exact keepsRules_of_readOptions hplace h

theorem read_eq_error_iff {f : Fault} : p.read c = .error f ↔ p.FirstBroken c f := by
  refine ⟨?_, ?_⟩
  · exact firstBroken_of_read
  · intro h
    cases hread : p.read c with
    | error g => rw [h.unique (firstBroken_of_read hread)]
    | ok o =>
      obtain ⟨n, hn, -⟩ := h
      exact absurd hn (keepsRules_of_read hread n f)

theorem read_ok_iff : (∃ o, p.read c = .ok o) ↔ p.KeepsRules c := by
  refine ⟨?_, ?_⟩
  · rintro ⟨o, ho⟩
    exact keepsRules_of_read ho
  · intro h
    cases hread : p.read c with
    | error f =>
      obtain ⟨n, hn, -⟩ := firstBroken_of_read hread
      exact absurd hn (h n f)
    | ok o => exact ⟨o, rfl⟩

/-- A placeholder that breaks no rule is read as the options of its row of directives, one after
the other. -/
theorem read_eq_ok_iff {o : Options} : p.read c = .ok o ↔ p.fault? c = none ∧
    ∃ ds, Directive.Row p.options ds ∧ (∀ d ∈ ds, ∀ f, ¬ d.Bad c.maxPlaceholders f) ∧
      ds.foldl Options.apply {} = o := by
  cases hplace : p.fault? c with
  | some f =>
    rw [read_of_fault? hplace]
    simp
  | none =>
    rw [read_of_fault?_none hplace]
    simp only [true_and]
    constructor
    · intro h
      by_cases hrow : ∃ ds, Directive.Row p.options ds
      · obtain ⟨ds, hds⟩ := hrow
        rw [readOptions_of_row hds, Options.ofDirectives_eq_ok_iff] at h
        exact ⟨ds, hds, h⟩
      · rw [readOptions_of_not_row fun ds hds => hrow ⟨ds, hds⟩] at h
        cases h
    · rintro ⟨ds, hds, h⟩
      rw [readOptions_of_row hds, Options.ofDirectives_eq_ok_iff]
      exact h

end SearchTemplate.Placeholder
