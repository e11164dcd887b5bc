import SearchTemplate.Proofs.Config.Settings

/-!
# What validation reports

`Config.locationsIn` lists where an object is wrong: for every setting in order what is wrong with
its value alone, then the keys that name no setting. Validation reports exactly this list, and
where it is empty, that the delimiters do not differ (`Config.reports_ofDatum`). So no setting has an
influence on the report of another, and the order of the settings has none on the result
(`Config.locations_modular`).
-/

namespace SearchTemplate

namespace Checked

variable {α β : Type} {x : Checked α} {y : Checked β} {ls ms : List Location}

/-- What a check finds wrong. -/
def locations : Checked α → List Location
  | .ok _ => []
  | .error ls => ls

/-- The check finds exactly the locations `ls` wrong, and accepts if there are none. -/
inductive Reports : Checked α → List Location → Prop where
  | ok (a : α) : Reports (.ok a) []
  | error {ls : List Location} (ne_nil : ls ≠ []) : Reports (.error ls) ls

/-- A report on the value itself, unless it is as it should be. -/
def faultUnless (p : Prop) [Decidable p] : List Location := if p then [] else [[]]

namespace Reports

theorem locations_eq (h : Reports x ls) : x.locations = ls := by
  cases h <;> rfl

theorem exists_ok_iff (h : Reports x ls) : (∃ a, x = .ok a) ↔ ls = [] := by
  cases h with
  | ok a => simp
  | error hne => simp [hne]

theorem eq_error (h : Reports x ls) (hne : ls ≠ []) : x = .error ls := by
  cases h with
  | ok a => exact absurd rfl hne
  | error _ => rfl

theorem of_ok_iff {p : Prop} [Decidable p] (hx : x = wrong ∨ ∃ a, x = .ok a)
    (hp : (∃ a, x = .ok a) ↔ p) : Reports x (faultUnless p) := by
  rcases hx with rfl | ⟨a, rfl⟩
  · have hnot : ¬ p := fun h => by
      obtain ⟨a, ha⟩ := hp.mpr h
      cases ha
    rw [faultUnless, if_neg hnot]
    exact .error (by simp)
  · rw [faultUnless, if_pos (hp.mp ⟨a, rfl⟩)]
    exact .ok a

theorem map (h : Reports x ls) (f : α → β) : Reports (x.map f) ls := by
  cases h with
  | ok a => exact .ok (f a)
  | error hne => exact .error hne

theorem under (h : Reports x ls) (part : Text) :
    Reports (Checked.under part x) (ls.map (part :: ·)) := by
  cases h with
  | ok a => exact .ok a
  | error hne => exact .error (by simpa using hne)

theorem both (hx : Reports x ls) (hy : Reports y ms) : Reports (Checked.both x y) (ls ++ ms) := by
  cases hx with
  | ok a =>
    cases hy with
    | ok b => exact .ok (a, b)
    | error hne => exact .error hne
  | error hne =>
    cases hy with
    | ok b =>
      rw [List.append_nil]
      exact .error hne
    | error _ => exact .error (by simp [hne])

/-- A check that comes after another adds its report only where the first has none. -/
theorem bind {f : α → Checked β} (hx : Reports x ls) (hf : ∀ a, x = .ok a → Reports (f a) ms) :
    Reports (x >>= f) (if ls = [] then ms else ls) := by
  cases hx with
  | ok a => exact hf a rfl
  | error hne =>
    rw [if_neg hne]
    exact .error hne

theorem items {check : Datum → Checked α} {faults : Datum → List Location}
    (h : ∀ d, Reports (check d) (faults d)) (i : Nat) (ds : List Datum) :
    Reports (Checked.items check i ds)
      ((ds.zipIdx i).flatMap fun p => (faults p.1).map (.ofNat p.2 :: ·)) := by
  induction ds generalizing i with
  | nil => exact .ok []
  | cons d ds ih =>
    rw [List.zipIdx_cons, List.flatMap_cons]
    exact (both ((h d).under (.ofNat i)) (ih (i + 1))).map _

end Reports

end Checked

namespace Config

open Checked

/-! ## The value of one setting -/

def delimiterFaults (d : Datum) : List Location :=
  faultUnless (∃ t ∈ d.toText?, ∃ x ∈ t, x.isBlank = false)

def maxPlaceholdersFaults (d : Datum) : List Location :=
  faultUnless (∃ n ∈ d.toInt?, 1 ≤ n ∧ n ≤ 99)

def limitFaults (d : Datum) : List Location := faultUnless (∃ n ∈ d.toInt?, 1 ≤ n)

/-- Both of two integers have to be there; more than two items are wrong as a whole. -/
def pairFaults (d : Datum) : List Location :=
  match d.items? with
  | none => [[]]
  | some ds =>
    if 2 < ds.length then [[]]
    else [0, 1].flatMap fun i =>
      (faultUnless ((ds[i]?.bind Datum.toInt?).isSome)).map (.ofNat i :: ·)

/-- The two integers of a pair. -/
def bounds? (d : Datum) : Option (Int × Int) :=
  match d.items? with
  | some [x, y] => x.toInt?.bind fun lo => y.toInt?.map fun hi => (lo, hi)
  | _ => none

/-- Bounds of a range that is neither empty nor has the space in it. -/
def BoundsUsable (p : Int × Int) : Prop := 0 ≤ p.1 ∧ p.1 ≤ p.2 ∧ ¬ (p.1 ≤ 0x20 ∧ 0x20 ≤ p.2)

instance (p : Int × Int) : Decidable (BoundsUsable p) := inferInstanceAs (Decidable (_ ∧ _))

/-- What is wrong with the form of each pair, under its index. -/
def pairsFaults (ds : List Datum) : List Location :=
  ds.zipIdx.flatMap fun p => (pairFaults p.1).map (.ofNat p.2 :: ·)

/-- What the ranges mean can be wrong only where their form is not. -/
def rangesFaults (d : Datum) : List Location :=
  match d.items? with
  | none => [[]]
  | some ds =>
    if pairsFaults ds = [] then faultUnless (∀ d ∈ ds, ∃ p ∈ bounds? d, BoundsUsable p)
    else pairsFaults ds

variable {d : Datum}

theorem reports_checkDelimiter (d : Datum) : Reports (checkDelimiter d) (delimiterFaults d) := by
  refine .of_ok_iff ?_ ⟨?_, ?_⟩
  · rw [checkDelimiter]
    split
    · split
      · exact .inr ⟨_, rfl⟩
      · exact .inl rfl
    · exact .inl rfl
  · rintro ⟨delimiter, h⟩
    exact ⟨_, checkDelimiter_eq_ok_iff.mp h, exists_visible_iff.mpr delimiter.visible⟩
  · rintro ⟨t, ht, hvisible⟩
    exact ⟨⟨t, exists_visible_iff.mp hvisible⟩, checkDelimiter_eq_ok_iff.mpr ht⟩

theorem checkLimit_eq_wrong_or (d : Datum) : checkLimit d = .wrong ∨ ∃ n, checkLimit d = .ok n := by
  rw [checkLimit]
  split
  · split
    · exact .inr ⟨_, rfl⟩
    · exact .inl rfl
  · exact .inl rfl

theorem reports_checkLimit (d : Datum) : Reports (checkLimit d) (limitFaults d) := by
  refine .of_ok_iff (checkLimit_eq_wrong_or d) ⟨?_, ?_⟩
  · rintro ⟨n, h⟩
    exact ⟨_, checkLimit_eq_ok_iff.mp h, by exact_mod_cast n.2⟩
  · rintro ⟨n, hn, hle⟩
    refine ⟨⟨n.toNat, by omega⟩, checkLimit_eq_ok_iff.mpr ?_⟩
    rw [Option.mem_def.mp hn, Int.toNat_of_nonneg (by omega)]

theorem reports_checkMaxPlaceholders (d : Datum) :
    Reports (checkMaxPlaceholders d) (maxPlaceholdersFaults d) := by
  refine .of_ok_iff ?_ ⟨?_, ?_⟩
  · rw [checkMaxPlaceholders]
    rcases checkLimit_eq_wrong_or d with h | ⟨n, h⟩
    · rw [h]
      exact .inl rfl
    · rw [h]
      by_cases hle : n.1 ≤ 99
      · exact .inr ⟨_, dif_pos hle⟩
      · exact .inl (dif_neg hle)
  · rintro ⟨n, h⟩
    exact ⟨_, checkMaxPlaceholders_eq_ok_iff.mp h, by exact_mod_cast n.2⟩
  · rintro ⟨n, hn, hle⟩
    refine ⟨⟨n.toNat, by omega⟩, checkMaxPlaceholders_eq_ok_iff.mpr ?_⟩
    rw [Option.mem_def.mp hn, Int.toNat_of_nonneg (by omega)]

theorem reports_wrong {α : Type} : Reports (wrong : Checked α) [[]] := .error (by simp)

theorem reports_checkInt (d : Datum) : Reports (checkInt d) (faultUnless d.toInt?.isSome) := by
  rw [checkInt]
  cases d.toInt? with
  | none => exact reports_wrong
  | some n => exact .ok n

theorem reports_checkPair (d : Datum) : Reports (checkPair d) (pairFaults d) := by
  rw [checkPair, pairFaults]
  rcases d.items? with _ | _ | ⟨x, _ | ⟨y, _ | ⟨z, ds⟩⟩⟩
  · exact reports_wrong
  · exact .both (reports_wrong.under _) (reports_wrong.under _)
  · exact .both ((reports_checkInt x).under _) (reports_wrong.under _)
  · have hlow := (reports_checkInt x).under (.ofNat 0)
    have hhigh := (reports_checkInt y).under (.ofNat 1)
    simpa using hlow.both hhigh
  · simpa using reports_wrong

theorem checkPair_eq_ok_iff_bounds {p : Int × Int} : checkPair d = .ok p ↔ bounds? d = some p := by
  obtain ⟨lo, hi⟩ := p
  rw [checkPair_eq_ok_iff, bounds?]
  split
  · rename_i x y hitems
    simp [hitems, Option.bind_eq_some_iff]
  · rename_i hitems
    simp only [reduceCtorEq, iff_false]
    rintro ⟨x, y, heq, -⟩
    exact hitems x y heq

theorem exists_forall₂_iff {α β : Type} {R : α → β → Prop} {P : β → Prop} {xs : List α} :
    (∃ ys, List.Forall₂ R xs ys ∧ ∀ y ∈ ys, P y) ↔ ∀ x ∈ xs, ∃ y, R x y ∧ P y := by
  induction xs with
  | nil => simp
  | cons x xs ih =>
    rw [List.forall_mem_cons, ← ih]
    constructor
    · rintro ⟨_, _ | ⟨hy, hys⟩, hP⟩
      obtain ⟨hPy, hPys⟩ := List.forall_mem_cons.mp hP
      exact ⟨⟨_, hy, hPy⟩, _, hys, hPys⟩
    · rintro ⟨⟨y, hy, hPy⟩, ys, hys, hPys⟩
      exact ⟨y :: ys, .cons hy hys, List.forall_mem_cons.mpr ⟨hPy, hPys⟩⟩

theorem exists_boundsUsable_iff : (∃ p ∈ bounds? d, BoundsUsable p) ↔
    ∃ r : CodeRange, checkPair d = .ok ((r.lo : Int), (r.hi : Int)) ∧ r.Usable := by
  simp only [checkPair_eq_ok_iff_bounds, usable_iff, Option.mem_def]
  constructor
  · rintro ⟨⟨lo, hi⟩, hp, hlo, hle, hspace⟩
    simp only at hlo hle hspace
    refine ⟨⟨lo.toNat, hi.toNat⟩, ?_, ?_⟩
    · rw [hp, Int.toNat_of_nonneg hlo, Int.toNat_of_nonneg (by omega)]
    · simp only
      omega
  · rintro ⟨r, hr, hle, hspace⟩
    refine ⟨_, hr, ?_⟩
    simp only [BoundsUsable]
    omega

theorem exists_checkRanges_eq_ok_iff {ds : List Datum} (hitems : d.items? = some ds) :
    (∃ rs, checkRanges d = .ok rs) ↔ ∀ d ∈ ds, ∃ p ∈ bounds? d, BoundsUsable p := by
  simp only [exists_boundsUsable_iff, ← exists_forall₂_iff, checkRanges_eq_ok_iff, hitems,
    Option.some.injEq, exists_eq_left']
  constructor
  · rintro ⟨⟨rs, husable⟩, h⟩
    exact ⟨rs, h, husable⟩
  · rintro ⟨rs, h, husable⟩
    exact ⟨⟨rs, husable⟩, h⟩

theorem reports_checkRanges (d : Datum) : Reports (checkRanges d) (rangesFaults d) := by
  rw [rangesFaults]
  cases hitems : d.items? with
  | none =>
    rw [checkRanges, hitems]
    exact reports_wrong
  | some ds =>
    have hform : Reports (items checkPair 0 ds) (pairsFaults ds) := .items reports_checkPair 0 ds
    simp only
    split
    · rename_i hnil
      refine .of_ok_iff ?_ (exists_checkRanges_eq_ok_iff hitems)
      obtain ⟨pairs, hpairs⟩ := hform.exists_ok_iff.mpr hnil
      rw [checkRanges, hitems]
      simp only [hpairs]
      split
      · exact .inl rfl
      · split
        · exact .inr ⟨_, rfl⟩
        · exact .inl rfl
    · rename_i hne
      rw [checkRanges, hitems]
      simp only [hform.eq_error hne]
      exact .error hne

/-! ## The whole object -/

/-- The settings in order, with what can be wrong with their values. -/
def settingFaults : List (Text × (Datum → List Location)) :=
  [(Key.entryDelimiter, delimiterFaults),
    (Key.dataDelimiter, delimiterFaults),
    (Key.queryDelimiter, delimiterFaults),
    (Key.maxPlaceholders, maxPlaceholdersFaults),
    (Key.maxDelimiterLength, limitFaults),
    (Key.unsafeRanges, rangesFaults)]

/-- What is wrong under a key that has the value `v`, or none. -/
def locationsUnder (key : Text) (faults : Datum → List Location) (v : Option Json) :
    List Location :=
  (v.elim [] fun v => faults (.ofJson v)).map (key :: ·)

/-- The keys that name no setting, each as a location. -/
def unknownLocations (fields : List (Text × Json)) : List Location :=
  ((fields.map Prod.fst).filter (· ∉ Key.all)).map ([·])

def locationsIn (fields : List (Text × Json)) : List Location :=
  settingFaults.flatMap (fun s => locationsUnder s.1 s.2 (Json.getField? s.1 fields))
    ++ unknownLocations fields

/-- The delimiter that a value sets, the default if there is none. -/
def delimiterText (default : Delimiter) (v : Option Json) : Text :=
  v.elim default.text fun v => (Datum.ofJson v).toText?.getD []

/-- The delimiters of the configuration, in case they are right for themselves. -/
def delimitersIn (fields : List (Text × Json)) : List Text :=
  [delimiterText standard.entryDelimiter (Json.getField? Key.entryDelimiter fields),
    delimiterText standard.dataDelimiter (Json.getField? Key.dataDelimiter fields),
    delimiterText standard.queryDelimiter (Json.getField? Key.queryDelimiter fields)]

variable {fields fields' : List (Text × Json)}

theorem reports_checkKey {α : Type} {check : Datum → Checked α} {faults : Datum → List Location}
    (h : ∀ d, Reports (check d) (faults d)) (key : Text) (default : α)
    (fields : List (Text × Json)) :
    Reports (checkKey key check default (Datum.ofJsonFields fields))
      (locationsUnder key faults (Json.getField? key fields)) := by
  rw [checkKey, lookup?_ofJsonFields_eq_map]
  cases Json.getField? key fields with
  | none => exact .ok default
  | some v => exact (h (.ofJson v)).under key

theorem filter_ofJsonFields (fields : List (Text × Json)) :
    (Datum.ofJsonFields fields).filter (fun e => !Key.isKnown (Datum.ofJsonFields fields) e.1) =
      Datum.ofJsonFields (fields.filter fun f => f.1 ∉ Key.all) := by
  rw [ofJsonFields_eq_map, ofJsonFields_eq_map, List.filter_map]
  congr 2
  funext f
  simp [Key.isKnown]

theorem reports_checkKeys (fields : List (Text × Json)) :
    Reports (checkKeys (Datum.ofJsonFields fields)) (unknownLocations fields) := by
  have hunknown : unknownLocations fields =
      (Datum.ofJsonFields (fields.filter fun f => f.1 ∉ Key.all)).map fun e => [e.1.keyName] := by
    rw [unknownLocations, ofJsonFields_eq_map, List.filter_map, List.map_map, List.map_map]
    rfl
  rw [checkKeys, filter_ofJsonFields, hunknown]
  cases Datum.ofJsonFields (fields.filter fun f => f.1 ∉ Key.all) with
  | nil => exact .ok ()
  | cons e es => exact .error (by simp)

theorem text_of_checkKey {key : Text} {default delimiter : Delimiter}
    (h : checkKey key checkDelimiter default (Datum.ofJsonFields fields) = .ok delimiter) :
    delimiter.text = delimiterText default (Json.getField? key fields) := by
  rw [checkKey, lookup?_ofJsonFields_eq_map] at h
  cases hv : Json.getField? key fields with
  | none =>
    rw [hv] at h
    cases h
    rfl
  | some v =>
    rw [hv] at h
    have htext := checkDelimiter_eq_ok_iff.mp (under_eq_ok_iff.mp h)
    simp [delimiterText, htext]

theorem reports_assemble (entry data query : Delimiter)
    (placeholders : { n : Nat // 1 ≤ n ∧ n ≤ 99 }) (length : { n : Nat // 1 ≤ n })
    (ranges : { rs : List CodeRange // ∀ r ∈ rs, r.Usable }) :
    Reports (assemble entry data query placeholders length ranges)
      (faultUnless [entry.text, data.text, query.text].Nodup) := by
  have hdiffer : [entry.text, data.text, query.text].Nodup ↔
      entry ≠ data ∧ entry ≠ query ∧ data ≠ query := by
    simp [Delimiter.text_inj, and_assoc]
  rw [assemble]
  split
  · rename_i h
    rw [faultUnless, if_pos (hdiffer.mpr h)]
    exact .ok _
  · rename_i h
    rw [faultUnless, if_neg (mt hdiffer.mp h)]
    exact reports_wrong

/-- Validation reports the locations in the object. Only where there are none, it reports that the
delimiters do not differ. -/
theorem reports_ofDatum (fields : List (Text × Json)) :
    Reports (ofDatum (.ofJson (.obj fields)))
      (if locationsIn fields = [] then faultUnless (delimitersIn fields).Nodup
        else locationsIn fields) := by
  have hchecks :=
    (reports_checkKey reports_checkDelimiter Key.entryDelimiter standard.entryDelimiter fields).both <|
    (reports_checkKey reports_checkDelimiter Key.dataDelimiter standard.dataDelimiter fields).both <|
    (reports_checkKey reports_checkDelimiter Key.queryDelimiter standard.queryDelimiter fields).both <|
    (reports_checkKey reports_checkMaxPlaceholders Key.maxPlaceholders
      ⟨standard.maxPlaceholders, standard.one_le_maxPlaceholders, standard.maxPlaceholders_le⟩
      fields).both <|
    (reports_checkKey reports_checkLimit Key.maxDelimiterLength
      ⟨standard.maxDelimiterLength, standard.one_le_maxDelimiterLength⟩ fields).both <|
    (reports_checkKey reports_checkRanges Key.unsafeRanges ⟨standard.unsafeRanges, standard.usable⟩
      fields).both (reports_checkKeys fields)
  simp only [locationsIn, settingFaults, List.flatMap_cons, List.flatMap_nil, List.append_nil,
    List.append_assoc]
  refine hchecks.bind ?_
  rintro ⟨entry, data, query, placeholders, length, ranges, _⟩ hok
  simp only [both_eq_ok_iff] at hok
  obtain ⟨hentry, hdata, hquery, -⟩ := hok
  have hassemble := reports_assemble entry data query placeholders length ranges
  rwa [text_of_checkKey hentry, text_of_checkKey hdata, text_of_checkKey hquery] at hassemble

/-! ## Settings do not depend on each other -/

/-- The result depends on the settings only through their values. -/
theorem ofEntries_congr {entries entries' : List (Datum × Datum)}
    (hvalues : ∀ key ∈ Key.all, Datum.lookup? key entries = Datum.lookup? key entries')
    (hkeys : checkKeys entries = checkKeys entries') : ofEntries entries = ofEntries entries' := by
  have hcheck {α : Type} {key : Text} (hkey : key ∈ Key.all) (check : Datum → Checked α)
      (default : α) : checkKey key check default entries = checkKey key check default entries' := by
    rw [checkKey, hvalues key hkey, checkKey]
  simp only [Key.all, List.mem_cons] at hcheck
  simp only [ofEntries, hkeys, hcheck, true_or, or_true]

/-- The order of the settings does not matter, as long as the other keys keep theirs. -/
theorem ofDatum_of_perm (hnodup : (fields.map Prod.fst).Nodup) (h : fields'.Perm fields)
    (hunknown : fields'.filter (·.1 ∉ Key.all) = fields.filter (·.1 ∉ Key.all)) :
    ofDatum (.ofJson (.obj fields')) = ofDatum (.ofJson (.obj fields)) := by
  refine ofEntries_congr (fun key _ => ?_) ?_
  · rw [lookup?_ofJsonFields_eq_map, lookup?_ofJsonFields_eq_map,
      Json.getField?_of_perm hnodup h]
  · rw [checkKeys, filter_ofJsonFields, hunknown, checkKeys, filter_ofJsonFields]

/-- The locations under a key. -/
def locationsAt (key : Text) (ls : List Location) : List Location :=
  ls.filter fun l => l.head? = some key

theorem locationsAt_locationsUnder (key key' : Text) (faults : Datum → List Location)
    (v : Option Json) : locationsAt key (locationsUnder key' faults v) =
      if key' = key then locationsUnder key' faults v else [] := by
  rw [locationsAt, locationsUnder]
  split
  · rename_i h
    exact List.filter_eq_self.mpr (by simp [h])
  · rename_i h
    exact List.filter_eq_nil_iff.mpr (by simp [h])

theorem locationsAt_unknownLocations {key : Text} (hkey : key ∈ Key.all) :
    locationsAt key (unknownLocations fields) = [] := by
  rw [locationsAt, List.filter_eq_nil_iff]
  intro l hl
  obtain ⟨k, hk, rfl⟩ := List.mem_map.mp hl
  have hne : k ≠ key := by
    rintro rfl
    simp [hkey] at hk
  simp [hne]

/-- What is reported under a key of a setting is what is wrong with its value. -/
theorem locationsAt_ofDatum {key : Text} (hkey : key ∈ Key.all) (fields : List (Text × Json)) :
    locationsAt key (ofDatum (.ofJson (.obj fields))).locations =
      settingFaults.flatMap fun s =>
        if s.1 = key then locationsUnder s.1 s.2 (Json.getField? key fields) else [] := by
  have hfound : locationsAt key (locationsIn fields) = settingFaults.flatMap fun s =>
      if s.1 = key then locationsUnder s.1 s.2 (Json.getField? key fields) else [] := by
    rw [locationsAt, locationsIn, List.filter_append, List.filter_flatMap, ← locationsAt,
      locationsAt_unknownLocations hkey, List.append_nil]
    refine List.flatMap_congr fun s _ => ?_
    rw [← locationsAt, locationsAt_locationsUnder]
    split
    · rename_i h
      rw [h]
    · rfl
  rw [(reports_ofDatum fields).locations_eq, ← hfound]
  split
  · rename_i hnil
    rw [hnil, faultUnless]
    split <;> rfl
  · rfl

theorem nil_not_mem_locationsIn (fields : List (Text × Json)) : [] ∉ locationsIn fields := by
  rw [locationsIn, List.mem_append, List.mem_flatMap]
  rintro (⟨s, -, hmem⟩ | hmem)
  · obtain ⟨l, -, hl⟩ := List.mem_map.mp hmem
    cases hl
  · obtain ⟨k, -, hk⟩ := List.mem_map.mp hmem
    cases hk

/-- What validation finds wrong with an object. -/
def report (fields : List (Text × Json)) : List Location :=
  (ofDatum (.ofJson (.obj fields))).locations

theorem report_eq (fields : List (Text × Json)) : report fields =
    if locationsIn fields = [] ∧ ¬ (delimitersIn fields).Nodup then [[]]
    else locationsIn fields := by
  rw [report, (reports_ofDatum fields).locations_eq, faultUnless]
  by_cases hnil : locationsIn fields = []
  · by_cases hnodup : (delimitersIn fields).Nodup
    · simp [hnil, hnodup]
    · simp [hnil, hnodup]
  · simp [hnil]

/-- Faults in three settings, and a key that names none. -/
def faultyFields : List (Text × Json) :=
  [(Key.maxPlaceholders, .int 100), (.ofString "zone", .null),
    (Key.unsafeRanges, .arr [.arr [.int 1], .string "ab", .arr [.int 2, .string "x"]]),
    (Key.entryDelimiter, .string " ")]

end Config

end SearchTemplate
