import SearchTemplate.Config.Validation
import SearchTemplate.Proofs.Engine.Outcome

/-!
# What validation accepts

A map is accepted as a configuration exactly if every check of it accepts, with what the checks make
of the values as its fields (`Config.ofEntries_eq_ok_iff`). For each check there is one lemma that
says which data it accepts and what it makes of them.
-/

namespace SearchTemplate

namespace Checked

variable {α β : Type}

theorem ofOption_eq_ok_iff {o : Option α} {a : α} : ofOption o = .ok a ↔ o = some a := by
  cases o with
  | none => simp [ofOption, wrong]
  | some b => simp [ofOption]

theorem under_eq_ok_iff {part : Text} {x : Checked α} {a : α} :
    under part x = .ok a ↔ x = .ok a := by
  cases x with
  | ok b => rfl
  | error locations => simp [under]

theorem both_eq_ok_iff {x : Checked α} {y : Checked β} {p : α × β} :
    both x y = .ok p ↔ x = .ok p.1 ∧ y = .ok p.2 := by
  obtain ⟨a, b⟩ := p
  cases x with
  | ok a' =>
    cases y with
    | ok b' => simp [both]
    | error locations => simp [both]
  | error locations =>
    cases y with
    | ok b' => simp [both]
    | error more => simp [both]

theorem items_eq_ok_iff {check : Datum → Checked α} {i : Nat} {ds : List Datum} {as : List α} :
    items check i ds = .ok as ↔ List.Forall₂ (fun d a => check d = .ok a) ds as := by
  induction ds generalizing i as with
  | nil => simp [items, eq_comm]
  | cons d ds ih =>
    rw [items, map_eq_ok_iff]
    simp only [both_eq_ok_iff, under_eq_ok_iff, ih]
    constructor
    · rintro ⟨p, ⟨hd, hds⟩, rfl⟩
      exact .cons hd hds
    · rintro (_ | ⟨hd, hds⟩)
      exact ⟨(_, _), ⟨hd, hds⟩, rfl⟩

end Checked

namespace Config

variable {d : Datum}

/-! ## Single settings -/

theorem checkDelimiter_eq_ok_iff {delimiter : Delimiter} :
    checkDelimiter d = .ok delimiter ↔ d.toText? = some delimiter.text := by
  obtain ⟨text, visible⟩ := delimiter
  rw [checkDelimiter]
  cases d.toText? with
  | none => simp [Checked.wrong]
  | some t =>
    by_cases ht : t.isBlank = false
    · simp [ht]
    · have hne : t ≠ text := fun heq => ht (heq ▸ visible)
      simp [ht, hne, Checked.wrong]

theorem checkLimit_eq_ok_iff {n : { n : Nat // 1 ≤ n }} :
    checkLimit d = .ok n ↔ d.toInt? = some (n.1 : Int) := by
  obtain ⟨n, hn⟩ := n
  rw [checkLimit]
  cases d.toInt? with
  | none => simp [Checked.wrong]
  | some k =>
    by_cases hk : 1 ≤ k.toNat
    · simp only [hk, dite_true, Except.ok.injEq, Subtype.mk.injEq, Option.some.injEq]
      omega
    · simp only [hk, dite_false, Checked.wrong, reduceCtorEq, Option.some.injEq, false_iff]
      omega

theorem checkMaxPlaceholders_eq_ok_iff {n : { n : Nat // 1 ≤ n ∧ n ≤ 99 }} :
    checkMaxPlaceholders d = .ok n ↔ d.toInt? = some (n.1 : Int) := by
  obtain ⟨n, hn⟩ := n
  have hlimit := checkLimit_eq_ok_iff (d := d) (n := ⟨n, hn.1⟩)
  rw [← hlimit, checkMaxPlaceholders]
  cases checkLimit d with
  | error locations => simp
  | ok k =>
    by_cases hk : k.1 ≤ 99
    · simp [hk, Subtype.ext_iff]
    · have hne : k ≠ ⟨n, hn.1⟩ := fun heq => hk (heq ▸ hn.2)
      simp [hk, hne, Checked.wrong]

theorem checkPair_eq_ok_iff {p : Int × Int} :
    checkPair d = .ok p ↔ ∃ x y, d.items? = some [x, y] ∧ x.toInt? = some p.1 ∧
      y.toInt? = some p.2 := by
  rw [checkPair]
  rcases d.items? with _ | _ | ⟨x, _ | ⟨y, _ | ⟨z, ds⟩⟩⟩
  · simp [Checked.wrong]
  · simp [Checked.both_eq_ok_iff, Checked.under_eq_ok_iff, Checked.wrong]
  · simp [Checked.both_eq_ok_iff, Checked.under_eq_ok_iff, Checked.wrong]
  · simp [Checked.both_eq_ok_iff, Checked.under_eq_ok_iff, checkInt, Checked.ofOption_eq_ok_iff]
  · simp [Checked.wrong]

theorem rangeOfInts?_eq_some_iff {p : Int × Int} {r : CodeRange} :
    rangeOfInts? p = some r ↔ p = ((r.lo : Int), (r.hi : Int)) := by
  obtain ⟨lo, hi⟩ := r
  rcases p with ⟨lo' | _, hi' | _⟩
  · simp only [rangeOfInts?, Option.some.injEq, CodeRange.mk.injEq, Prod.mk.injEq,
      Int.ofNat_eq_natCast, Int.natCast_inj]
  · simp [rangeOfInts?]
  · simp [rangeOfInts?]
  · simp [rangeOfInts?]

theorem mapM_rangeOfInts?_eq_some_iff {ps : List (Int × Int)} {rs : List CodeRange} :
    ps.mapM rangeOfInts? = some rs ↔ ps = rs.map fun r => ((r.lo : Int), (r.hi : Int)) := by
  induction ps generalizing rs with
  | nil => cases rs <;> simp
  | cons p ps ih =>
    rw [List.mapM_cons]
    simp only [Option.bind_eq_bind, Option.bind_eq_some_iff, rangeOfInts?_eq_some_iff, ih]
    cases rs with
    | nil => simp
    | cons r rs => simp

theorem checkRanges_eq_ok_iff {rs : { rs : List CodeRange // ∀ r ∈ rs, r.Usable }} :
    checkRanges d = .ok rs ↔ ∃ ds, d.items? = some ds ∧
      List.Forall₂ (fun d r => checkPair d = .ok ((r.lo : Int), (r.hi : Int))) ds rs.1 := by
  rw [checkRanges]
  cases d.items? with
  | none => simp [Checked.wrong]
  | some ds =>
    simp only [Option.some.injEq, exists_eq_left']
    have hitems : Checked.items checkPair 0 ds =
          .ok (rs.1.map fun r => ((r.lo : Int), (r.hi : Int))) ↔
        List.Forall₂ (fun d r => checkPair d = .ok ((r.lo : Int), (r.hi : Int))) ds rs.1 := by
      rw [Checked.items_eq_ok_iff, List.forall₂_map_right_iff]
    rw [← hitems]
    cases Checked.items checkPair 0 ds with
    | error locations => simp
    | ok pairs =>
      simp only [Except.ok.injEq]
      rw [← mapM_rangeOfInts?_eq_some_iff]
      cases pairs.mapM rangeOfInts? with
      | none => simp [Checked.wrong]
      | some rs' =>
        by_cases husable : ∀ r ∈ rs', r.Usable
        · simp only [dif_pos husable, Except.ok.injEq, Subtype.ext_iff, Option.some.injEq]
        · have hne : rs' ≠ rs.1 := fun heq => husable (heq ▸ rs.2)
          simp only [dif_neg husable, Checked.wrong, reduceCtorEq, Option.some.injEq, hne]

/-! ## The whole map -/

variable {entries : List (Datum × Datum)} {c : Config}

theorem checkKeys_eq_ok_iff :
    checkKeys entries = .ok () ↔ ∀ e ∈ entries, Key.isKnown entries e.1 = true := by
  rw [checkKeys]
  split
  · rename_i hnil
    simpa using hnil
  · rename_i hne
    simp only [reduceCtorEq, false_iff]
    intro hall
    exact hne (List.filter_eq_nil_iff.mpr fun e he => by simp [hall e he])

theorem assemble_eq_ok_iff {entry data query : Delimiter}
    {placeholders : { n : Nat // 1 ≤ n ∧ n ≤ 99 }} {length : { n : Nat // 1 ≤ n }}
    {ranges : { rs : List CodeRange // ∀ r ∈ rs, r.Usable }} :
    assemble entry data query placeholders length ranges = .ok c ↔
      entry = c.entryDelimiter ∧ data = c.dataDelimiter ∧ query = c.queryDelimiter ∧
        placeholders.1 = c.maxPlaceholders ∧ length.1 = c.maxDelimiterLength ∧
        ranges.1 = c.unsafeRanges := by
  rw [assemble]
  split
  · rw [Except.ok.injEq]
    constructor
    · rintro rfl
      exact ⟨rfl, rfl, rfl, rfl, rfl, rfl⟩
    · rintro ⟨rfl, rfl, rfl, hplaceholders, hlength, hranges⟩
      cases c
      congr
  · rename_i hsame
    simp only [Checked.wrong, reduceCtorEq, false_iff]
    rintro ⟨rfl, rfl, rfl, -⟩
    exact hsame ⟨c.entry_ne_data, c.entry_ne_query, c.data_ne_query⟩

/-- **What validation accepts.** Every check accepts, and what it makes of the value is the field of
the configuration. -/
theorem ofEntries_eq_ok_iff : ofEntries entries = .ok c ↔
    checkKey Key.entryDelimiter checkDelimiter standard.entryDelimiter entries =
      .ok c.entryDelimiter ∧
    checkKey Key.dataDelimiter checkDelimiter standard.dataDelimiter entries =
      .ok c.dataDelimiter ∧
    checkKey Key.queryDelimiter checkDelimiter standard.queryDelimiter entries =
      .ok c.queryDelimiter ∧
    checkKey Key.maxPlaceholders checkMaxPlaceholders
      ⟨standard.maxPlaceholders, standard.one_le_maxPlaceholders, standard.maxPlaceholders_le⟩
      entries = .ok ⟨c.maxPlaceholders, c.one_le_maxPlaceholders, c.maxPlaceholders_le⟩ ∧
    checkKey Key.maxDelimiterLength checkLimit
      ⟨standard.maxDelimiterLength, standard.one_le_maxDelimiterLength⟩ entries =
      .ok ⟨c.maxDelimiterLength, c.one_le_maxDelimiterLength⟩ ∧
    checkKey Key.unsafeRanges checkRanges ⟨standard.unsafeRanges, standard.usable⟩ entries =
      .ok ⟨c.unsafeRanges, c.usable⟩ ∧
    checkKeys entries = .ok () := by
  rw [ofEntries, bind_eq_ok_iff]
  simp only [Checked.both_eq_ok_iff, Prod.exists, assemble_eq_ok_iff]
  constructor
  · rintro ⟨_, _, _, ⟨p, hp⟩, ⟨l, hl⟩, ⟨rs, hrs⟩, _, hchecks, rfl, rfl, rfl, rfl, rfl, rfl⟩
    exact hchecks
  · intro hchecks
    exact ⟨_, _, _, _, _, _, (), hchecks, rfl, rfl, rfl, rfl, rfl, rfl⟩

end Config

end SearchTemplate
