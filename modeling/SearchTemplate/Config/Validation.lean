import SearchTemplate.Config.Basic
import SearchTemplate.Config.Coercion
import SearchTemplate.Datum.Describe

/-!
# Validating configurations

`Config.ofDatum` makes a configuration of a map with any of the six settings, or says where the
map is wrong. All settings are checked independently of each other, then the keys; that the
delimiters differ is checked only when nothing else is wrong.
-/

namespace SearchTemplate

/-- Where something is wrong: keys and indexes from the top. -/
abbrev Location := List Text

/-- A value, or the locations of everything that is wrong. -/
abbrev Checked (α : Type) := Except (List Location) α

namespace Checked

variable {α β : Type}

/-- The value itself is wrong. -/
def wrong : Checked α := .error [[]]

def ofOption : Option α → Checked α
  | some a => .ok a
  | none => wrong

/-- What is wrong lies under the key or index `part`. -/
def under (part : Text) : Checked α → Checked α
  | .ok a => .ok a
  | .error locations => .error (locations.map (part :: ·))

/-- Two checks that do not depend on each other. -/
def both : Checked α → Checked β → Checked (α × β)
  | .ok a, .ok b => .ok (a, b)
  | .ok _, .error locations => .error locations
  | .error locations, .ok _ => .error locations
  | .error first, .error second => .error (first ++ second)

/-- Checks every item under its index, which counts from `i`. -/
def items (check : Datum → Checked α) (i : Nat) : List Datum → Checked (List α)
  | [] => .ok []
  | d :: rest =>
    (both (under (.ofNat i) (check d)) (items check (i + 1) rest)).map fun p => p.1 :: p.2

end Checked

namespace Config

/-! ## Single settings -/

def checkDelimiter (d : Datum) : Checked Delimiter :=
  match d.toText? with
  | some t => if visible : t.isBlank = false then .ok ⟨t, visible⟩ else .wrong
  | none => .wrong

/-- A limit of at least one. -/
def checkLimit (d : Datum) : Checked { n : Nat // 1 ≤ n } :=
  match d.toInt? with
  | some n => if le : 1 ≤ n.toNat then .ok ⟨n.toNat, le⟩ else .wrong
  | none => .wrong

def checkMaxPlaceholders (d : Datum) : Checked { n : Nat // 1 ≤ n ∧ n ≤ 99 } :=
  match checkLimit d with
  | .ok n => if le : n.1 ≤ 99 then .ok ⟨n.1, n.2, le⟩ else .wrong
  | .error locations => .error locations

def checkInt (d : Datum) : Checked Int := .ofOption d.toInt?

/-- Two integers; what is missing counts as wrong at its index. -/
def checkPair (d : Datum) : Checked (Int × Int) :=
  let low (x : Datum) := (checkInt x).under (.ofNat 0)
  match d.items? with
  | none => .wrong
  | some [] => .both (.under (.ofNat 0) .wrong) (.under (.ofNat 1) .wrong)
  | some [x] => .both (low x) (.under (.ofNat 1) .wrong)
  | some [x, y] => .both (low x) ((checkInt y).under (.ofNat 1))
  | some (_ :: _ :: _ :: _) => .wrong

def rangeOfInts? : Int × Int → Option CodeRange
  | (.ofNat lo, .ofNat hi) => some ⟨lo, hi⟩
  | _ => none

/-- Ranges, checked one by one for their form and all together for their meaning. -/
def checkRanges (d : Datum) : Checked { rs : List CodeRange // ∀ r ∈ rs, r.Usable } :=
  match d.items? with
  | none => .wrong
  | some ds =>
    match Checked.items checkPair 0 ds with
    | .error locations => .error locations
    | .ok pairs =>
      match pairs.mapM rangeOfInts? with
      | none => .wrong
      | some rs => if usable : ∀ r ∈ rs, r.Usable then .ok ⟨rs, usable⟩ else .wrong

/-! ## The whole map -/

namespace Key

def entryDelimiter : Text := .ofString "entry_delimiter"
def dataDelimiter : Text := .ofString "data_delimiter"
def queryDelimiter : Text := .ofString "query_delimiter"
def maxPlaceholders : Text := .ofString "max_placeholders"
def maxDelimiterLength : Text := .ofString "max_delimiter_length"
def unsafeRanges : Text := .ofString "query_unsafe_ranges"

/-- The keys of all settings, in the order in which they are checked. -/
def all : List Text :=
  [entryDelimiter, dataDelimiter, queryDelimiter, maxPlaceholders, maxDelimiterLength,
    unsafeRanges]

/-- The key names a setting. One given as bytes counts only where the same key is given as a
text, which is then the one that is read. -/
def isKnown (entries : List (Datum × Datum)) : Datum → Bool
  | .str t => all.contains t
  | .bytes bs =>
    match Text.ofUtf8? bs with
    | some t => all.contains t && (Datum.lookup? t entries).isSome
    | none => false
  | _ => false

end Key

/-- Checks the value under a key; a key that is not there leaves the default. -/
def checkKey {α : Type} (key : Text) (check : Datum → Checked α) (default : α)
    (entries : List (Datum × Datum)) : Checked α :=
  match Datum.lookup? key entries with
  | some d => (check d).under key
  | none => .ok default

/-- All keys are known. -/
def checkKeys (entries : List (Datum × Datum)) : Checked Unit :=
  match entries.filter fun e => !Key.isKnown entries e.1 with
  | [] => .ok ()
  | unknown => .error (unknown.map fun e => [e.1.keyName])

/-- Checks that the delimiters differ. -/
def assemble (entry data query : Delimiter) (placeholders : { n : Nat // 1 ≤ n ∧ n ≤ 99 })
    (length : { n : Nat // 1 ≤ n }) (ranges : { rs : List CodeRange // ∀ r ∈ rs, r.Usable }) :
    Checked Config :=
  if differ : entry ≠ data ∧ entry ≠ query ∧ data ≠ query then
    .ok
      { entryDelimiter := entry
        dataDelimiter := data
        queryDelimiter := query
        maxPlaceholders := placeholders.1
        maxDelimiterLength := length.1
        unsafeRanges := ranges.1
        entry_ne_data := differ.1
        entry_ne_query := differ.2.1
        data_ne_query := differ.2.2
        one_le_maxPlaceholders := placeholders.2.1
        maxPlaceholders_le := placeholders.2.2
        one_le_maxDelimiterLength := length.2
        usable := ranges.2 }
  else .wrong

def ofEntries (entries : List (Datum × Datum)) : Checked Config := do
  let s := standard
  let (entry, data, query, placeholders, length, ranges, _) ←
    .both (checkKey Key.entryDelimiter checkDelimiter s.entryDelimiter entries) <|
    .both (checkKey Key.dataDelimiter checkDelimiter s.dataDelimiter entries) <|
    .both (checkKey Key.queryDelimiter checkDelimiter s.queryDelimiter entries) <|
    .both (checkKey Key.maxPlaceholders checkMaxPlaceholders
      ⟨s.maxPlaceholders, s.one_le_maxPlaceholders, s.maxPlaceholders_le⟩ entries) <|
    .both (checkKey Key.maxDelimiterLength checkLimit
      ⟨s.maxDelimiterLength, s.one_le_maxDelimiterLength⟩ entries) <|
    .both (checkKey Key.unsafeRanges checkRanges ⟨s.unsafeRanges, s.usable⟩ entries) <|
    checkKeys entries
  assemble entry data query placeholders length ranges

def ofDatum : Datum → Checked Config
  | .map entries => ofEntries entries
  | _ => .wrong

end Config

end SearchTemplate
