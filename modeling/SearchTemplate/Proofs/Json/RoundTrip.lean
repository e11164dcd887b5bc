import Mathlib.Data.List.TakeDrop
import SearchTemplate.Json.Printer
import SearchTemplate.Json.Reader
import SearchTemplate.Proofs.Json.Sorted
import SearchTemplate.Proofs.Placeholder.Directive

/-!
# Reading back what was printed

The text of an exact value is read as that value (`Json.Exact.read_print`), so two exact values with
one text are equal, and the text holds no control character (`Json.Exact.noControl_print`).
-/

namespace SearchTemplate

namespace Text

theorem eq_zero_of_digitChar : ∀ n < 10, n.digitChar = '0' → n = 0 := by
  decide

/-- Only zero is written with a leading zero. -/
theorem eq_zero_of_head?_ofNat {n : Nat} (h : (ofNat n).head? = some (.char '0')) :
    n = 0 := by
  induction n using Nat.strongRecOn with
  | ind n ih =>
    rcases Nat.lt_or_ge n 10 with hlt | hge
    · rw [ofNat, Nat.toDigits_of_lt_base hlt] at h
      exact eq_zero_of_digitChar n hlt (by simpa using h)
    · have hsplit : ofNat n = ofNat (n / 10) ++ [.char (n % 10).digitChar] := by
        rw [ofNat, Nat.toDigits_of_base_le (by decide) hge, List.map_append]
        rfl
      rw [hsplit, List.head?_append_of_ne_nil _ (ofNat_ne_nil _)] at h
      have := ih (n / 10) (by omega) h
      omega

theorem ofNat_eq_cons (n : Nat) : ∃ s t, ofNat n = s :: t ∧ s.isDigit = true := by
  obtain ⟨s, t, h⟩ := List.exists_cons_of_ne_nil (ofNat_ne_nil n)
  exact ⟨s, t, h, isDigit_of_mem_ofNat (h ▸ List.mem_cons_self)⟩

end Text

namespace Json

/-! ## Strings -/

theorem readStringFrom_shortEscape {s : Symbol} {c : Char} (hs : s ≠ .char 'u')
    (h : shortEscape? s = some c) (t : Text) :
    readStringFrom 0 (.char '\\' :: s :: t)
      = (readStringFrom 0 t).map fun r => (.char c :: r.1, r.2) := by
  have hescape : escape? (.char '\\' :: s :: t) = some (.char c, 2) := by
    unfold escape?
    split
    · rename_i heq
      cases heq
      exact absurd rfl hs
    · rename_i heq
      cases heq
      rw [h]
      rfl
    · rename_i hno
      exact absurd rfl (hno s t)
  rw [readStringFrom, if_neg (by decide), if_pos rfl, hescape]
  rfl

theorem hexNumber?_lowerHex : ∀ n < 0x20,
    Text.hexNumber? [.char '0', .char '0', .lowerHex (n / 16), .lowerHex (n % 16)] = some n := by
  decide

theorem readStringFrom_control {n : Nat} (h : n < 0x20) (t : Text) :
    readStringFrom 0 (Text.ofString "\\u00" ++ [.lowerHex (n / 16), .lowerHex (n % 16)] ++ t)
      = (readStringFrom 0 t).map fun r => (.char (Char.ofNat n) :: r.1, r.2) := by
  have hescape : escape? (.char '\\' :: .char 'u' :: .char '0' :: .char '0' ::
      .lowerHex (n / 16) :: .lowerHex (n % 16) :: t) = some (.char (Char.ofNat n), 6) := by
    rw [escape?, hexNumber?_lowerHex n h, Option.bind_eq_bind, Option.bind_some,
      if_neg (by omega), if_neg (by omega)]
    rfl
  change readStringFrom 0 (.char '\\' :: .char 'u' :: .char '0' :: .char '0' ::
      .lowerHex (n / 16) :: .lowerHex (n % 16) :: t) = _
  rw [readStringFrom, if_neg (by decide), if_pos rfl, hescape]
  rfl

theorem char_ofNat_code {s : Symbol} (h : s.code < 0x20) : .char (Char.ofNat s.code) = s := by
  cases s with
  | char c => exact congrArg Symbol.char c.ofNat_toNat
  | stray b =>
    rw [Symbol.code] at h
    omega

/-- The ways to write a symbol: with a letter, by its code or as it is. -/
inductive Escaped : Symbol → Text → Prop where
  | short {s : Symbol} {c : Char} :
      s ≠ .char 'u' → 0x20 ≤ s.code → shortEscape? s = some c → Escaped (.char c) [.char '\\', s]
  | control {s : Symbol} : s.code < 0x20 →
      Escaped s (Text.ofString "\\u00" ++ [.lowerHex (s.code / 16), .lowerHex (s.code % 16)])
  | plain {s : Symbol} : s ≠ quote → s ≠ .char '\\' → 0x20 ≤ s.code → Escaped s [s]

theorem escaped_escapeSymbol (s : Symbol) : Escaped s (escapeSymbol s) := by
  unfold escapeSymbol
  iterate 7
    split
    · next h => exact h ▸ .short (by decide) (by decide) rfl
  split
  · next h => exact .control h
  · next hquote hbackslash _ _ _ _ _ hcode => exact .plain hquote hbackslash (Nat.le_of_not_lt hcode)

/-- A written symbol is read as itself. -/
theorem Escaped.readStringFrom_append {s : Symbol} {written : Text} (h : Escaped s written)
    (t : Text) : readStringFrom 0 (written ++ t)
      = (readStringFrom 0 t).map fun r => (s :: r.1, r.2) := by
  cases h with
  | short hs _ h => exact readStringFrom_shortEscape hs h t
  | control h => rw [readStringFrom_control h, char_ofNat_code h]
  | plain hquote hbackslash hcode =>
    rw [List.cons_append, List.nil_append, readStringFrom]
    exact (if_neg hquote).trans ((if_neg hbackslash).trans (if_neg (Nat.not_lt.mpr hcode)))

theorem readStringFrom_flatMap (t rest : Text) :
    readStringFrom 0 (t.flatMap escapeSymbol ++ quote :: rest) = some (t, rest) := by
  induction t with
  | nil => rfl
  | cons s t ih =>
    rw [List.flatMap_cons, List.append_assoc, (escaped_escapeSymbol s).readStringFrom_append, ih]
    rfl

theorem readString_append (t rest : Text) :
    readStringFrom 0 (t.flatMap escapeSymbol ++ [quote] ++ rest) = some (t, rest) := by
  rw [List.append_assoc]
  exact readStringFrom_flatMap t rest

/-! ## Numbers -/

/-- What may follow a value. -/
inductive Boundary : Text → Prop where
  | nil : Boundary []
  | comma (t : Text) : Boundary (.char ',' :: t)
  | bracket (t : Text) : Boundary (.char ']' :: t)
  | brace (t : Text) : Boundary (.char '\x7d' :: t)

variable {rest : Text}

theorem spanDigits_ofNat (n : Nat) (h : Boundary rest) :
    spanDigits (Text.ofNat n ++ rest) = (Text.ofNat n, rest) := by
  have hdigits : ∀ s ∈ Text.ofNat n, s.isDigit = true := fun _ => Text.isDigit_of_mem_ofNat
  rw [spanDigits, List.span_eq_takeWhile_dropWhile, List.takeWhile_append_of_pos hdigits,
    List.dropWhile_append_of_pos hdigits]
  cases h <;> simp [Symbol.isDigit, Symbol.digit?]

theorem readMagnitude_ofNat (negative : Bool) (n : Nat) (h : Boundary rest) :
    readMagnitude negative (Text.ofNat n ++ rest)
      = some (.int (if negative then -(n : Int) else n), rest) := by
  -- the reader rejects a leading zero, which only zero itself is written with
  have hzero : ¬(1 < (Text.ofNat n).length ∧ (Text.ofNat n).head? = some (.char '0')) := by
    rintro ⟨hlength, hhead⟩
    rw [Text.eq_zero_of_head?_ofNat hhead] at hlength
    revert hlength
    decide
  have hfraction : readFraction rest = ([], rest) := by cases h <;> rfl
  have hexponent : readExponent rest = (none, rest) := by cases h <;> rfl
  unfold readMagnitude
  rw [spanDigits_ofNat n h]
  split
  · next heq => exact absurd (congrArg Prod.fst heq) (Text.ofNat_ne_nil n)
  · next heq =>
    cases heq
    simp [hzero, hfraction, hexponent, Text.number_ofNat]

theorem readNumber_of_isDigit {s : Symbol} (hs : s.isDigit = true) (t : Text) :
    readNumber (s :: t) = readMagnitude false (s :: t) := by
  unfold readNumber
  split
  · next heq =>
    cases heq
    cases hs
  · next heq =>
    cases heq
    cases hs
  · rfl

theorem readNumber_negative {s : Symbol} (hs : s.isDigit = true) (t : Text) :
    readNumber (.char '-' :: s :: t) = readMagnitude true (s :: t) := by
  unfold readNumber
  split
  · next heq =>
    cases heq
    cases hs
  · next heq =>
    cases heq
    rfl
  · next hno => exact absurd rfl (hno (s :: t))

theorem readNumber_ofInt (n : Int) (h : Boundary rest) :
    readNumber (Text.ofInt n ++ rest) = some (.int n, rest) := by
  cases n with
  | ofNat n =>
    obtain ⟨s, t, ht, hs⟩ := Text.ofNat_eq_cons n
    have hread := readMagnitude_ofNat false n h
    rw [Text.ofInt, ht, List.cons_append, readNumber_of_isDigit hs, ← List.cons_append, ← ht, hread]
    rfl
  | negSucc n =>
    obtain ⟨s, t, ht, hs⟩ := Text.ofNat_eq_cons (n + 1)
    have hread := readMagnitude_ofNat true (n + 1) h
    rw [Text.ofInt, ht, List.cons_append, List.cons_append, readNumber_negative hs,
      ← List.cons_append, ← ht, hread]
    rfl

/-! ## Values -/

variable {v : Json} {fields : List (Text × Json)}

theorem skipBlanks_cons {s : Symbol} (hs : isBlank s = false) (t : Text) :
    skipBlanks (s :: t) = s :: t :=
  List.dropWhile_cons_of_neg (by simp [hs])

theorem expect_self {s : Symbol} (hs : isBlank s = false) (t : Text) :
    expect s (s :: t) = some t := by
  rw [expect, skipBlanks_cons hs]
  exact if_pos rfl

theorem expect_comma (t : Text) : expect (.char ',') (.char ',' :: t) = some t :=
  expect_self (by decide) t

/-- The text of a value begins with neither a blank nor the end of an array. -/
def Opens (t : Text) : Prop := ∃ s u, t = s :: u ∧ isBlank s = false ∧ s ≠ .char ']'

theorem Opens.skipBlanks_append {t : Text} (h : Opens t) (rest : Text) :
    skipBlanks (t ++ rest) = t ++ rest := by
  obtain ⟨s, u, rfl, hblank, -⟩ := h
  exact skipBlanks_cons hblank (u ++ rest)

theorem Opens.expect_append {t : Text} (h : Opens t) (rest : Text) :
    expect (.char ']') (t ++ rest) = none := by
  rw [expect, h.skipBlanks_append]
  obtain ⟨s, u, rfl, -, hbracket⟩ := h
  exact if_neg hbracket

/-- A digit or a sign. -/
def OfNumber (s : Symbol) : Prop := s.isDigit = true ∨ s = .char '-'

theorem ofInt_eq_cons (n : Int) : ∃ s t, Text.ofInt n = s :: t ∧ OfNumber s := by
  cases n with
  | ofNat n =>
    obtain ⟨s, t, ht, hs⟩ := Text.ofNat_eq_cons n
    exact ⟨s, t, ht, .inl hs⟩
  | negSucc n => exact ⟨.char '-', _, rfl, .inr rfl⟩

theorem OfNumber.ne {s x : Symbol} (h : OfNumber s) (hx : x.isDigit = false ∧ x ≠ .char '-') :
    s ≠ x := by
  rintro rfl
  rcases h with h | h
  · rw [hx.1] at h
    cases h
  · exact hx.2 h

theorem OfNumber.isBlank {s : Symbol} (h : OfNumber s) : isBlank s = false := by
  simp only [Json.isBlank, Bool.or_eq_false_iff, decide_eq_false_iff_not]
  exact ⟨⟨⟨h.ne (by decide), h.ne (by decide)⟩, h.ne (by decide)⟩, h.ne (by decide)⟩

theorem Exact.opens_print (h : v.Exact) : Opens v.print := by
  cases h with
  | null => exact ⟨_, _, rfl, by decide, by decide⟩
  | bool b => cases b <;> exact ⟨_, _, rfl, by decide, by decide⟩
  | int n =>
    obtain ⟨s, t, ht, hs⟩ := ofInt_eq_cons n
    exact ⟨s, t, ht, hs.isBlank, hs.ne (by decide)⟩
  | str t => exact ⟨_, _, rfl, by decide, by decide⟩
  | arr _ => exact ⟨_, _, rfl, by decide, by decide⟩
  | obj _ _ => exact ⟨_, _, rfl, by decide, by decide⟩

theorem readWord_append (word : String) (v : Json) (rest : Text) :
    readWord word v (Text.ofString word ++ rest) = some (v, rest) := by
  rw [readWord]
  simp

/-- The reader takes the text of a value for it, given as much fuel as the text is long. -/
def Reads (v : Json) : Prop :=
  ∀ {fuel : Nat} {rest : Text}, v.print.length ≤ fuel → Boundary rest →
    readValue (fuel + 1) (v.print ++ rest) = some (v, rest)

theorem readValue_number {s : Symbol} (hs : OfNumber s) (fuel : Nat) (t : Text) :
    readValue (fuel + 1) (s :: t) = readNumber (s :: t) := by
  rw [readValue, skipBlanks_cons hs.isBlank]
  split
  · next heq => cases heq
  iterate 8
    · next heq => exact absurd (List.cons.inj heq).1 (hs.ne (by decide))
  · rfl

theorem reads_int (n : Int) : Reads (.int n) := by
  intro fuel rest _ hrest
  obtain ⟨s, t, ht, hs⟩ := ofInt_eq_cons n
  have hread := readNumber_ofInt n hrest
  rw [ht] at hread
  rw [print, ht]
  exact (readValue_number hs fuel (t ++ rest)).trans hread

theorem reads_null : Reads .null := by
  intro fuel rest _ _
  rw [readValue]
  exact readWord_append "ull" .null rest

theorem reads_bool (b : Bool) : Reads (.bool b) := by
  intro fuel rest _ _
  rw [readValue]
  cases b with
  | true => exact readWord_append "rue" (.bool true) rest
  | false => exact readWord_append "alse" (.bool false) rest

theorem reads_str (t : Text) : Reads (.str t) := by
  intro fuel rest _ _
  rw [readValue]
  exact congrArg (Option.map _) (readString_append t rest)

/-! ### Arrays -/

theorem readValue_bracket {fuel : Nat} {t : Text} {items : List Json}
    (hnotEmpty : expect (.char ']') t = none) (hitems : readItems fuel t = some (items, rest)) :
    readValue (fuel + 1) (.char '[' :: t) = some (.arr items, rest) := by
  rw [readValue, skipBlanks_cons (by decide)]
  simp only [hnotEmpty, hitems, Option.map_some]

theorem readItems_last {fuel : Nat} {t : Text} (hv : readValue fuel t = some (v, .char ']' :: rest)) :
    readItems (fuel + 1) t = some ([v], rest) := by
  rw [readItems, hv]
  rfl

theorem readItems_more {fuel : Nat} {t u : Text} {items : List Json}
    (hv : readValue fuel t = some (v, .char ',' :: u))
    (hitems : readItems fuel u = some (items, rest)) :
    readItems (fuel + 1) t = some (v :: items, rest) := by
  simp only [readItems, hv, expect_comma, hitems, Option.bind_eq_bind, Option.bind_some]
  rfl

theorem readItems_printItems {items : List Json} (hne : items ≠ [])
    (hreads : ∀ v ∈ items, Reads v) {fuel : Nat} (hfuel : (printItems items).length ≤ fuel)
    (rest : Text) :
    readItems (fuel + 2) (printItems items ++ .char ']' :: rest) = some (items, rest) := by
  -- every item takes one unit of fuel and has at least one symbol of text
  induction items generalizing fuel with
  | nil => exact absurd rfl hne
  | cons v items ih =>
    obtain ⟨hv, hitems⟩ := List.forall_mem_cons.mp hreads
    cases items with
    | nil => exact readItems_last (hv hfuel (.bracket rest))
    | cons w items =>
      rw [printItems, List.length_append, List.length_cons] at hfuel
      obtain ⟨fuel, rfl⟩ := Nat.exists_eq_add_of_le' (show 1 ≤ fuel by omega)
      rw [printItems, List.append_assoc, List.cons_append]
      exact readItems_more (hv (by omega) (.comma _))
        (ih (List.cons_ne_nil w items) hitems (by omega))

theorem opens_printItems {items : List Json} (hne : items ≠ []) (h : ∀ v ∈ items, Opens v.print) :
    Opens (printItems items) := by
  match items with
  | [v] => exact h v List.mem_cons_self
  | v :: w :: items =>
    obtain ⟨s, t, ht, hs⟩ := h v List.mem_cons_self
    rw [printItems, ht]
    exact ⟨s, _, rfl, hs⟩

theorem reads_arr {items : List Json} (hopens : ∀ v ∈ items, Opens v.print)
    (hreads : ∀ v ∈ items, Reads v) : Reads (.arr items) := by
  intro fuel rest hfuel _
  rw [print, List.length_append, List.length_cons] at hfuel
  rw [print, List.append_assoc, List.cons_append]
  by_cases hne : items = []
  · subst hne
    rw [readValue]
    rfl
  · obtain ⟨fuel, rfl⟩ := Nat.exists_eq_add_of_le' (Nat.le_trans (Nat.le_add_left 2 _) hfuel)
    exact readValue_bracket ((opens_printItems hne hopens).expect_append _)
      (readItems_printItems hne hreads (by simpa using hfuel) rest)

/-! ### Objects -/

variable {fuel : Nat} {key t : Text} {found : List (Text × Json)}

theorem expect_printString (key rest : Text) : expect (.char '"') (printString key ++ rest)
    = some (key.flatMap escapeSymbol ++ [quote] ++ rest) :=
  expect_self (s := quote) (by decide) _

/-- The key of a field and the colon after it are passed over. -/
theorem readFields_key {r : Json × Text} (hv : readValue fuel t = some r) :
    readFields (fuel + 1) found (printString key ++ .char ':' :: t)
      = match expect (.char ',') r.2 with
        | some rest => readFields fuel (setField key r.1 found) rest
        | none => (expect (.char '\x7d') r.2).bind fun rest => some (setField key r.1 found, rest) := by
  have hcolon : expect (.char ':') (.char ':' :: t) = some t := expect_self (by decide) t
  rw [readFields, expect_printString]
  simp only [Option.bind_eq_bind, Option.bind_some, readString_append, hcolon, hv]
  rfl

theorem readFields_last (hv : readValue fuel t = some (v, .char '\x7d' :: rest)) :
    readFields (fuel + 1) found (printString key ++ .char ':' :: t)
      = some (setField key v found, rest) := by
  rw [readFields_key hv]
  rfl

theorem readFields_more {u : Text} (hv : readValue fuel t = some (v, .char ',' :: u)) :
    readFields (fuel + 1) found (printString key ++ .char ':' :: t)
      = readFields fuel (setField key v found) u := by
  rw [readFields_key hv, expect_comma]

theorem readFields_printFields (hne : fields ≠ [])
    (hnodup : ((found ++ fields).map Prod.fst).Nodup) (hreads : ∀ f ∈ fields, Reads f.2)
    (hfuel : (printFields fields).length ≤ fuel) (rest : Text) :
    readFields (fuel + 2) found (printFields fields ++ .char '\x7d' :: rest)
      = some (found ++ fields, rest) := by
  induction fields generalizing fuel found with
  | nil => exact absurd rfl hne
  | cons f fields ih =>
    obtain ⟨key, v⟩ := f
    obtain ⟨hv : Reads v, hfields⟩ := List.forall_mem_cons.mp hreads
    -- no key comes twice, so the field is set behind those already found
    have hset : setField key v found = found ++ [(key, v)] := by
      refine setField_of_not_mem (fun hmem => ?_) v
      rw [List.map_append, List.map_cons, List.nodup_append] at hnodup
      exact hnodup.2.2 key hmem key List.mem_cons_self rfl
    cases fields with
    | nil =>
      rw [printFields, List.length_append, List.length_cons] at hfuel
      rw [printFields, List.append_assoc, List.cons_append, ← hset]
      exact readFields_last (hv (by omega) (.brace rest))
    | cons g fields =>
      rw [printFields, List.length_append, List.length_append, List.length_cons,
        List.length_cons] at hfuel
      obtain ⟨fuel, rfl⟩ := Nat.exists_eq_add_of_le' (show 1 ≤ fuel by omega)
      have happend : found ++ (key, v) :: g :: fields = found ++ [(key, v)] ++ g :: fields :=
        List.append_cons found (key, v) (g :: fields)
      have hlength : v.print.length ≤ fuel + 1 := by omega
      rw [happend] at hnodup ⊢
      rw [printFields, List.append_assoc, List.append_assoc, List.cons_append, List.cons_append,
        readFields_more (hv hlength (.comma _)), hset]
      exact ih (List.cons_ne_nil g fields) hnodup hfields (by omega)

theorem readValue_brace (hnotEmpty : expect (.char '\x7d') t = none)
    (hfields : readFields fuel [] t = some (fields, rest)) :
    readValue (fuel + 1) (.char '\x7b' :: t) = some (.obj fields, rest) := by
  rw [readValue, skipBlanks_cons (by decide)]
  simp only [hnotEmpty, hfields, Option.map_some]

theorem expect_printFields (hne : fields ≠ []) (rest : Text) :
    expect (.char '\x7d') (printFields fields ++ rest) = none := by
  match fields with
  | [(key, v)] => rfl
  | (key, v) :: g :: fields => rfl

theorem reads_obj (hnodup : (fields.map Prod.fst).Nodup) (hreads : ∀ f ∈ fields, Reads f.2) :
    Reads (.obj fields) := by
  intro fuel rest hfuel _
  rw [print, List.length_append, List.length_cons] at hfuel
  rw [print, List.append_assoc, List.cons_append]
  by_cases hne : fields = []
  · subst hne
    rw [readValue]
    rfl
  · obtain ⟨fuel, rfl⟩ := Nat.exists_eq_add_of_le' (Nat.le_trans (Nat.le_add_left 2 _) hfuel)
    have hall : (([] ++ fields).map Prod.fst).Nodup := hnodup
    exact readValue_brace (expect_printFields hne _)
      (readFields_printFields hne hall hreads (by simpa using hfuel) rest)

/-! ## Whole texts -/

namespace Exact

theorem reads (h : v.Exact) : Reads v := by
  -- on exactness, not on the value: it reaches all items and fields without a mutual induction
  induction h with
  | null => exact reads_null
  | bool b => exact reads_bool b
  | int n => exact reads_int n
  | str t => exact reads_str t
  | arr hitems ih => exact reads_arr (fun v hv => (hitems v hv).opens_print) ih
  | obj hnodup _ ih => exact reads_obj hnodup ih

/-- The text of an exact value is read as that value. -/
theorem read_print (h : v.Exact) : read v.print = some v := by
  have hread := h.reads (Nat.le_refl v.print.length) .nil
  rw [List.append_nil] at hread
  rw [read, hread]
  rfl

/-- Exact values with one text are equal. -/
theorem print_inj {w : Json} (hv : v.Exact) (hw : w.Exact) (h : v.print = w.print) : v = w := by
  have hread := hv.read_print
  rw [h, hw.read_print] at hread
  exact (Option.some.inj hread).symm

end Exact

/-! ## Control characters -/

def NoControl (t : Text) : Prop := ∀ s ∈ t, 0x20 ≤ s.code

instance (t : Text) : Decidable (NoControl t) := inferInstanceAs (Decidable (∀ s ∈ t, 0x20 ≤ s.code))

theorem noControl_cons {s : Symbol} {t : Text} (hs : 0x20 ≤ s.code) (ht : NoControl t) :
    NoControl (s :: t) :=
  List.forall_mem_cons.mpr ⟨hs, ht⟩

theorem noControl_append {t u : Text} (ht : NoControl t) (hu : NoControl u) :
    NoControl (t ++ u) :=
  List.forall_mem_append.mpr ⟨ht, hu⟩

theorem noControl_nil : NoControl [] := List.forall_mem_nil _

theorem code_lowerHex : ∀ n < 16, 0x20 ≤ (Symbol.lowerHex n).code := by
  decide

theorem Escaped.noControl {s : Symbol} {written : Text} (h : Escaped s written) :
    NoControl written := by
  cases h with
  | short _ hs _ => exact noControl_cons (by decide) (noControl_cons hs noControl_nil)
  | control hs =>
    refine noControl_append (by decide) (noControl_cons (code_lowerHex _ ?_)
      (noControl_cons (code_lowerHex _ ?_) noControl_nil))
    · omega
    · omega
  | plain _ _ hs => exact noControl_cons hs noControl_nil

theorem noControl_printString (t : Text) : NoControl (printString t) := by
  refine noControl_append (noControl_cons (by decide) fun s hs => ?_)
    (noControl_cons (by decide) noControl_nil)
  obtain ⟨x, -, hx⟩ := List.mem_flatMap.mp hs
  exact (escaped_escapeSymbol x).noControl s hx

theorem noControl_ofNat (n : Nat) : NoControl (Text.ofNat n) := by
  intro s hs
  obtain ⟨c, hc, rfl⟩ := List.mem_map.mp hs
  have hdigit : c.isDigit = true := Nat.isDigit_of_mem_toDigits (by decide) (by decide) hc
  have hcode : 48 ≤ c.toNat := (Char.isDigit_iff_toNat.mp hdigit).1
  exact Nat.le_trans (by decide) hcode

theorem noControl_ofInt (n : Int) : NoControl (Text.ofInt n) := by
  cases n with
  | ofNat n => exact noControl_ofNat n
  | negSucc n => exact noControl_cons (by decide) (noControl_ofNat (n + 1))

theorem noControl_printItems {items : List Json} (h : ∀ v ∈ items, NoControl v.print) :
    NoControl (printItems items) := by
  induction items with
  | nil => exact noControl_nil
  | cons v items ih =>
    obtain ⟨hv, hitems⟩ := List.forall_mem_cons.mp h
    cases items with
    | nil => exact hv
    | cons w items => exact noControl_append hv (noControl_cons (by decide) (ih hitems))

theorem noControl_printFields (h : ∀ f ∈ fields, NoControl f.2.print) :
    NoControl (printFields fields) := by
  induction fields with
  | nil => exact noControl_nil
  | cons f fields ih =>
    obtain ⟨key, v⟩ := f
    obtain ⟨hv, hfields⟩ := List.forall_mem_cons.mp h
    have hfield : NoControl (printString key ++ .char ':' :: v.print) :=
      noControl_append (noControl_printString key) (noControl_cons (by decide) hv)
    cases fields with
    | nil => exact hfield
    | cons g fields =>
      rw [printFields]
      exact noControl_append hfield (noControl_cons (by decide) (ih hfields))

theorem Exact.noControl_print (h : v.Exact) : NoControl v.print := by
  induction h with
  | null => decide
  | bool b => cases b <;> decide
  | int n => exact noControl_ofInt n
  | str t => exact noControl_printString t
  | arr _ ih =>
    exact noControl_append (noControl_cons (by decide) (noControl_printItems ih))
      (noControl_cons (by decide) noControl_nil)
  | obj _ _ ih =>
    exact noControl_append (noControl_cons (by decide) (noControl_printFields ih))
      (noControl_cons (by decide) noControl_nil)

end Json

end SearchTemplate
