import SearchTemplate.Config.Printer
import SearchTemplate.Proofs.Config.UnsafeSets
import SearchTemplate.Proofs.Config.Validation

/-!
# Settings

`Settings` are values for the six settings that are of the right kinds, whether a configuration may
have them or not. Validation accepts them exactly if they are valid and leaves them as they are
(`Config.ofDatum_toFields_eq_ok_iff`), and what it makes of any other value is valid again
(`Config.validation_retracts`).
-/

namespace SearchTemplate

/-- Values for all settings. -/
structure Settings where
  entryDelimiter : Text
  dataDelimiter : Text
  queryDelimiter : Text
  maxPlaceholders : Int
  maxDelimiterLength : Int
  unsafeRanges : List (Int × Int)
  deriving DecidableEq

namespace Settings

open Config

def delimiters (s : Settings) : List Text := [s.entryDelimiter, s.dataDelimiter, s.queryDelimiter]

/-- What the settings of a configuration keep to. -/
structure Valid (s : Settings) : Prop where
  visible : ∀ t ∈ s.delimiters, ∃ x ∈ t, x.isBlank = false
  nodup : s.delimiters.Nodup
  maxPlaceholders : 1 ≤ s.maxPlaceholders ∧ s.maxPlaceholders ≤ 99
  maxDelimiterLength : 1 ≤ s.maxDelimiterLength
  unsafeRanges : ∀ r ∈ s.unsafeRanges, 0 ≤ r.1 ∧ r.1 ≤ r.2 ∧ ¬ (r.1 ≤ 0x20 ∧ 0x20 ≤ r.2)

def rangeToJson (r : Int × Int) : Json := .arr [.int r.1, .int r.2]

/-- The fields of the object with all settings. -/
def toFields (s : Settings) : List (Text × Json) :=
  [(Key.entryDelimiter, .str s.entryDelimiter),
    (Key.dataDelimiter, .str s.dataDelimiter),
    (Key.queryDelimiter, .str s.queryDelimiter),
    (Key.maxPlaceholders, .int s.maxPlaceholders),
    (Key.maxDelimiterLength, .int s.maxDelimiterLength),
    (Key.unsafeRanges, .arr (s.unsafeRanges.map rangeToJson))]

end Settings

namespace Config

variable {c : Config} {s : Settings}

def settings (c : Config) : Settings where
  entryDelimiter := c.entryDelimiter.text
  dataDelimiter := c.dataDelimiter.text
  queryDelimiter := c.queryDelimiter.text
  maxPlaceholders := c.maxPlaceholders
  maxDelimiterLength := c.maxDelimiterLength
  unsafeRanges := c.unsafeRanges.map fun r => ((r.lo : Int), (r.hi : Int))

theorem toJson_eq (c : Config) : c.toJson = .obj c.settings.toFields := by
  rw [Settings.toFields, toJson, settings, List.map_map]
  rfl

/-! ## Valid settings -/

theorem usable_iff {r : CodeRange} :
    r.Usable ↔ r.lo ≤ r.hi ∧ ¬ (r.lo ≤ 0x20 ∧ 0x20 ≤ r.hi) := by
  rw [CodeRange.Usable, ← Bool.not_eq_true, CodeRange.contains_iff]
  rfl

theorem exists_visible_iff {t : Text} : (∃ x ∈ t, x.isBlank = false) ↔ t.isBlank = false := by
  simp [Text.isBlank]

theorem Delimiter.text_inj {d d' : Delimiter} : d.text = d'.text ↔ d = d' := by
  refine ⟨fun h => ?_, congrArg Delimiter.text⟩
  cases d
  cases d'
  cases h
  rfl

theorem valid_settings (c : Config) : c.settings.Valid where
  visible := by
    have hvisible (d : Delimiter) : ∃ x ∈ d.text, x.isBlank = false :=
      exists_visible_iff.mpr d.visible
    simp [Settings.delimiters, settings, hvisible]
  nodup := by
    have hne := And.intro c.entry_ne_data (And.intro c.entry_ne_query c.data_ne_query)
    simpa [Settings.delimiters, settings, Delimiter.text_inj, and_assoc] using hne
  maxPlaceholders := by
    have hlimits := And.intro c.one_le_maxPlaceholders c.maxPlaceholders_le
    simp only [settings]
    omega
  maxDelimiterLength := by
    have hlimit := c.one_le_maxDelimiterLength
    simp only [settings]
    omega
  unsafeRanges := by
    intro p hp
    obtain ⟨r, hr, rfl⟩ := List.mem_map.mp hp
    have husable := usable_iff.mp (c.usable r hr)
    simp only
    omega

/-- Every valid settings are those of a configuration. -/
theorem exists_settings_eq (h : s.Valid) : ∃ c : Config, c.settings = s := by
  obtain ⟨entry, data, query, placeholders, length, ranges⟩ := s
  obtain ⟨hvisible, hnodup, hplaceholders, hlength, hranges⟩ := h
  simp only [Settings.delimiters, List.forall_mem_cons, exists_visible_iff] at hvisible
  obtain ⟨hentry, hdata, hquery, -⟩ := hvisible
  have hne : (entry ≠ data ∧ entry ≠ query) ∧ data ≠ query := by
    simpa [Settings.delimiters] using hnodup
  obtain ⟨⟨hed, heq⟩, hdq⟩ := hne
  simp only at hplaceholders hlength hranges
  let toRange (p : Int × Int) : CodeRange := ⟨p.1.toNat, p.2.toNat⟩
  refine ⟨{ entryDelimiter := ⟨entry, hentry⟩
            dataDelimiter := ⟨data, hdata⟩
            queryDelimiter := ⟨query, hquery⟩
            maxPlaceholders := placeholders.toNat
            maxDelimiterLength := length.toNat
            unsafeRanges := ranges.map toRange
            entry_ne_data := by simpa using hed
            entry_ne_query := by simpa using heq
            data_ne_query := by simpa using hdq
            one_le_maxPlaceholders := by omega
            maxPlaceholders_le := by omega
            one_le_maxDelimiterLength := by omega
            usable := ?_ }, ?_⟩
  · intro r hr
    obtain ⟨p, hp, rfl⟩ := List.mem_map.mp hr
    have hrange := hranges p hp
    rw [usable_iff]
    simp only [toRange]
    omega
  · simp only [settings, Settings.mk.injEq, true_and]
    refine ⟨by omega, by omega, ?_⟩
    rw [List.map_map]
    refine (List.map_congr_left fun p hp => ?_).trans (List.map_id ranges)
    have hrange := hranges p hp
    refine Prod.ext ?_ ?_
    · simp only [Function.comp_apply, toRange, id_eq]
      omega
    · simp only [Function.comp_apply, toRange, id_eq]
      omega

/-! ## Validation of settings -/

theorem lookup?_ofJsonFields_eq_map (key : Text) (fields : List (Text × Json)) :
    Datum.lookup? key (Datum.ofJsonFields fields) = (Json.getField? key fields).map .ofJson := by
  induction fields with
  | nil => rfl
  | cons f fields ih =>
    rw [Datum.ofJsonFields, Datum.lookup?, Json.getField?, ih]
    split <;> rfl

theorem ofJsonFields_eq_map (fields : List (Text × Json)) :
    Datum.ofJsonFields fields = fields.map fun f => (.str f.1, .ofJson f.2) := by
  induction fields with
  | nil => rfl
  | cons f fields ih => rw [Datum.ofJsonFields, ih, List.map_cons]

theorem ofJsonItems_eq_map (items : List Json) : Datum.ofJsonItems items = items.map .ofJson := by
  induction items with
  | nil => rfl
  | cons v items ih => rw [Datum.ofJsonItems, ih, List.map_cons]

theorem keys_toFields (s : Settings) : s.toFields.map Prod.fst = Key.all := rfl

theorem nodup_keys : Key.all.Nodup := by decide

theorem checkKey_eq_ok_iff {α : Type} {key : Text} {check : Datum → Checked α} {default a : α}
    {entries : List (Datum × Datum)} {d : Datum} (hd : Datum.lookup? key entries = some d) :
    checkKey key check default entries = .ok a ↔ check d = .ok a := by
  rw [checkKey, hd, Checked.under_eq_ok_iff]

theorem checkRanges_ofJson_eq_ok_iff {ps : List (Int × Int)}
    {rs : { rs : List CodeRange // ∀ r ∈ rs, r.Usable }} :
    checkRanges (.ofJson (.arr (ps.map Settings.rangeToJson))) = .ok rs ↔
      (rs.1.map fun r => ((r.lo : Int), (r.hi : Int))) = ps := by
  have hpair (p : Int × Int) (r : CodeRange) :
      checkPair (.ofJson (Settings.rangeToJson p)) = .ok ((r.lo : Int), (r.hi : Int)) ↔
        p = ((r.lo : Int), (r.hi : Int)) := by
    rw [checkPair_eq_ok_iff]
    simp [Settings.rangeToJson, Datum.ofJson, Datum.ofJsonItems, Datum.items?, Datum.toInt?,
      Prod.ext_iff]
  rw [checkRanges_eq_ok_iff, Datum.ofJson, ofJsonItems_eq_map]
  simp only [Datum.items?, Option.some.injEq, exists_eq_left', List.forall₂_map_left_iff, hpair]
  rw [← List.forall₂_map_right_iff (f := fun r : CodeRange => ((r.lo : Int), (r.hi : Int))),
    List.forall₂_eq_eq_eq, eq_comm]

/-- Validation accepts settings as they are or not at all, in whatever order they stand. -/
theorem ofDatum_toFields_eq_ok_iff {fields : List (Text × Json)} (hf : fields.Perm s.toFields) :
    ofDatum (.ofJson (.obj fields)) = .ok c ↔ c.settings = s := by
  have hkeys : (fields.map Prod.fst).Perm Key.all := keys_toFields s ▸ hf.map Prod.fst
  have hlookup {key : Text} {v : Json} (hv : (key, v) ∈ s.toFields) :
      Datum.lookup? key (Datum.ofJsonFields fields) = some (.ofJson v) := by
    have hnodup : (fields.map Prod.fst).Nodup := hkeys.nodup_iff.mpr nodup_keys
    rw [lookup?_ofJsonFields_eq_map,
      (Json.getField?_eq_some_iff hnodup).mpr (hf.mem_iff.mpr hv), Option.map_some]
  have hknown : checkKeys (Datum.ofJsonFields fields) = .ok () := by
    rw [checkKeys_eq_ok_iff, ofJsonFields_eq_map, List.forall_mem_map]
    intro f hf
    exact List.contains_iff_mem.mpr (hkeys.mem_iff.mp (List.mem_map_of_mem hf))
  rw [Datum.ofJson, ofDatum, ofEntries_eq_ok_iff,
    checkKey_eq_ok_iff (hlookup (v := .str s.entryDelimiter) (by simp [Settings.toFields])),
    checkKey_eq_ok_iff (hlookup (v := .str s.dataDelimiter) (by simp [Settings.toFields])),
    checkKey_eq_ok_iff (hlookup (v := .str s.queryDelimiter) (by simp [Settings.toFields])),
    checkKey_eq_ok_iff (hlookup (v := .int s.maxPlaceholders) (by simp [Settings.toFields])),
    checkKey_eq_ok_iff (hlookup (v := .int s.maxDelimiterLength) (by simp [Settings.toFields])),
    checkKey_eq_ok_iff (hlookup (v := .arr (s.unsafeRanges.map Settings.rangeToJson))
      (by simp [Settings.toFields])),
    checkDelimiter_eq_ok_iff, checkDelimiter_eq_ok_iff, checkDelimiter_eq_ok_iff,
    checkMaxPlaceholders_eq_ok_iff, checkLimit_eq_ok_iff, checkRanges_ofJson_eq_ok_iff]
  obtain ⟨entry, data, query, placeholders, length, ranges⟩ := s
  simp [settings, Datum.ofJson, Datum.toText?, Datum.toInt?, hknown, eq_comm]

/-! ## Unsafe symbols -/

/-- What is unsafe in queries and in URLs. -/
structure UnsafeSymbols (c : Config) (query url : UnsafeSet) : Prop where
  query_iff : ∀ x : Symbol,
    query.covers x ↔ 0xFF < x.code ∨ ∃ r ∈ c.unsafeRanges, r.lo ≤ x.code ∧ x.code ≤ r.hi
  url_iff : ∀ x : Symbol, url.covers x ↔ query.covers x ∨ x = .char ' '
  space : query.covers (.char ' ') = false

theorem unsafeSymbols (c : Config) : UnsafeSymbols c c.querySet c.urlSet := by
  have hquery (x : Symbol) : c.querySet.covers x ↔
      0xFF < x.code ∨ ∃ r ∈ c.unsafeRanges, r.lo ≤ x.code ∧ x.code ≤ r.hi := by
    simp only [UnsafeSet.covers, UnsafeSet.lists, querySet, Bool.or_eq_true, List.any_eq_true,
      CodeRange.contains_iff, decide_eq_true_iff]
    exact or_comm
  refine ⟨hquery, fun x => ?_, ?_⟩
  · simp [covers_urlSet, or_comm]
  · rw [← Bool.not_eq_true, hquery]
    rintro (hlt | ⟨r, hr, hspace⟩)
    · exact absurd hlt (by decide)
    · exact (usable_iff.mp (c.usable r hr)).2 hspace

/-- **Validation is a retraction onto the valid settings.** What it makes of any value has valid
settings and is accepted again unchanged. Settings of the right kinds, in any order, are accepted
exactly if they are valid, and unchanged. In particular the unsafe sets have the symbols of the
ranges, those beyond Latin-1, and for URLs the space. -/
theorem validation_retracts :
    (∀ (v : Json) (c : Config), ofDatum (.ofJson v) = .ok c →
      c.settings.Valid ∧ ofDatum (.ofJson c.toJson) = .ok c) ∧
    (∀ (s : Settings) (fields : List (Text × Json)), fields.Perm s.toFields →
      ((∃ c, ofDatum (.ofJson (.obj fields)) = .ok c) ↔ s.Valid) ∧
      ∀ c, ofDatum (.ofJson (.obj fields)) = .ok c → c.toJson = .obj s.toFields) ∧
    (∀ c : Config, c.Encodable → ∃ query url, c.queryUnsafe = .ok query ∧
      c.urlUnsafe = .ok url ∧ UnsafeSymbols c query url) := by
  refine ⟨fun v c _ => ⟨valid_settings c, ?_⟩, fun s fields hf => ⟨?_, fun c hc => ?_⟩,
    fun c hc => ⟨_, _, queryUnsafe_eq hc, urlUnsafe_eq hc, unsafeSymbols c⟩⟩
  · rw [toJson_eq]
    exact (ofDatum_toFields_eq_ok_iff (.refl _)).mpr rfl
  · simp only [ofDatum_toFields_eq_ok_iff hf]
    refine ⟨?_, exists_settings_eq⟩
    rintro ⟨c, rfl⟩
    exact valid_settings c
  · rw [toJson_eq, (ofDatum_toFields_eq_ok_iff hf).mp hc]

/-- An object that leaves some settings out and has numbers in unusual forms. -/
def looseObject : Json := .ofFields
  [("max_placeholders", .string " 06 "),
    ("query_unsafe_ranges", .arr [.arr [.string "+33.0", .int 0x2F], .arr [.bool true, .int 9]])]

def looseConfig : Config :=
  { standard with
    maxPlaceholders := 6
    unsafeRanges := [⟨0x21, 0x2F⟩, ⟨0x01, 0x09⟩]
    one_le_maxPlaceholders := by decide
    maxPlaceholders_le := by decide
    usable := by decide }

theorem validation_retracts_looseObject :
    ofDatum (.ofJson looseObject) = .ok looseConfig ∧
      ofDatum (.ofJson looseConfig.toJson) = .ok looseConfig ∧ looseConfig.settings.Valid ∧
      (∃ c, ofDatum (.ofJson (.obj looseConfig.settings.toFields.reverse)) = .ok c ∧
        c.toJson = .obj looseConfig.settings.toFields) ∧
      ∃ query url, looseConfig.queryUnsafe = .ok query ∧ looseConfig.urlUnsafe = .ok url ∧
        UnsafeSymbols looseConfig query url := by
  have hloose : ofDatum (.ofJson looseObject) = .ok looseConfig := rfl
  obtain ⟨hfixed, hsettings, hunsafe⟩ := validation_retracts
  obtain ⟨hvalid, hagain⟩ := hfixed looseObject looseConfig hloose
  obtain ⟨haccepted, hunchanged⟩ := hsettings looseConfig.settings _ (List.reverse_perm _)
  obtain ⟨c, hc⟩ := haccepted.mpr hvalid
  exact ⟨hloose, hagain, hvalid, ⟨c, hc, hunchanged c hc⟩, hunsafe looseConfig (by decide)⟩

end Config

end SearchTemplate
