import SearchTemplate.Percent.Encode
import SearchTemplate.Proofs.Config.UnsafeSets

/-!
# Decoding what was encoded

Each percent form decodes to the byte it was made of, so that a set with `%` in it gives a text
from which the bytes can be read (`Percent.decode_encode_of_lists`). A set without `%` and without
hexadecimal digits leaves the forms of a text alone and makes no form out of their parts, so that a
text encoded before is not encoded again (`Percent.decode_encode_of_leavesForms`).
-/

namespace SearchTemplate

/-- The set holds no symbol that a percent form is made of. -/
structure UnsafeSet.LeavesForms (u : UnsafeSet) : Prop where
  percent : u.lists (.char '%') = false
  hexDigit : ∀ s : Symbol, s.hexValue?.isSome = true → u.lists s = false

/-! ## Digits and symbols -/

namespace Symbol

theorem hexValue?_upperHex : ∀ n, n < 16 → (upperHex n).hexValue? = some n := by decide

theorem hexValue?_percent : (char '%').hexValue? = none := by decide

/-- The codes of the hexadecimal digits. -/
theorem code_of_hexValue? {s : Symbol} (h : s.hexValue?.isSome = true) :
    (0x30 ≤ s.code ∧ s.code ≤ 0x39) ∨ (0x41 ≤ s.code ∧ s.code ≤ 0x46) ∨
      (0x61 ≤ s.code ∧ s.code ≤ 0x66) := by
  cases s with
  | stray b => cases h
  | char c =>
    have hle : ∀ a b : Char, a ≤ b ↔ a.toNat ≤ b.toNat := fun a b => Iff.rfl
    unfold hexValue? at h
    simp only [hle] at h
    simp only [code]
    split at h
    · left; assumption
    · split at h
      · right; left; assumption
      · split at h
        · right; right; assumption
        · cases h

theorem bytes_ne_nil (s : Symbol) : s.bytes ≠ [] := by
  cases s with
  | stray b => exact List.cons_ne_nil _ _
  | char c => exact String.utf8EncodeChar_ne_nil

end Symbol

namespace Percent

/-! ## Reading one form -/

theorem decodeFrom_eq_drop (k : Nat) (t : Text) : decodeFrom k t = decode (t.drop k) := by
  induction t generalizing k with
  | nil => cases k <;> rfl
  | cons s rest ih =>
    cases k with
    | zero => rfl
    | succ k => exact ih k

theorem decode_cons_of_ne {s : Symbol} (h : s ≠ .char '%') (rest : Text) :
    decode (s :: rest) = s.bytes ++ decode rest := by
  rw [decode, decodeFrom, if_neg h]
  rfl

theorem decode_percent_of_some {rest : Text} {b : UInt8} (h : hexByte? rest = some b) :
    decode (.char '%' :: rest) = b :: decode (rest.drop 2) := by
  rw [decode, decodeFrom, if_pos rfl, h, ← decodeFrom_eq_drop]

theorem decode_percent_of_none {rest : Text} (h : hexByte? rest = none) :
    decode (.char '%' :: rest) = Symbol.bytes (.char '%') ++ decode rest := by
  rw [decode, decodeFrom, if_pos rfl, h]
  rfl

theorem hexByte?_form (b : UInt8) (rest : Text) :
    hexByte? (.upperHex (b.toNat / 16) :: .upperHex (b.toNat % 16) :: rest) = some b := by
  have hb := b.toNat_lt
  have hvalue : b.toNat / 16 * 16 + b.toNat % 16 = b.toNat := by omega
  rw [hexByte?, Symbol.hexValue?_upperHex _ (by omega), Symbol.hexValue?_upperHex _ (by omega)]
  show some (UInt8.ofNat (b.toNat / 16 * 16 + b.toNat % 16)) = some b
  rw [hvalue, UInt8.ofNat_toNat]

/-- No form goes on with a symbol that is no hexadecimal digit. -/
theorem hexByte?_eq_none {s : Symbol} (h : s.hexValue? = none) (rest : Text) :
    hexByte? (s :: rest) = none := by
  cases rest with
  | nil => rfl
  | cons x rest =>
    rw [hexByte?, h]
    rfl

theorem symbolForm_ne_nil (s : Symbol) : symbolForm s ≠ [] := by
  obtain ⟨b, bs, hbytes⟩ := List.exists_cons_of_ne_nil s.bytes_ne_nil
  rw [symbolForm, hbytes]
  exact List.cons_ne_nil _ _

theorem decode_byteForm_append (b : UInt8) (rest : Text) :
    decode (byteForm b ++ rest) = b :: decode rest := by
  simp only [byteForm, List.cons_append, List.nil_append]
  rw [decode_percent_of_some (hexByte?_form b rest)]
  rfl

theorem decode_forms_append (bs : List UInt8) (rest : Text) :
    decode (bs.flatMap byteForm ++ rest) = bs ++ decode rest := by
  induction bs with
  | nil => rfl
  | cons b bs ih =>
    rw [List.flatMap_cons, List.append_assoc, decode_byteForm_append, ih, List.cons_append]

theorem decode_symbolForm_append (s : Symbol) (rest : Text) :
    decode (symbolForm s ++ rest) = s.bytes ++ decode rest := decode_forms_append s.bytes rest

/-! ## Reading an encoded text -/

variable {u : UnsafeSet}

theorem encode_cons (u : UnsafeSet) (s : Symbol) (t : Text) :
    encode u (s :: t) = (if u.covers s then symbolForm s else [s]) ++ encode u t :=
  List.flatMap_cons ..

theorem decode_encode_of_lists (h : u.lists (.char '%') = true) (t : Text) :
    decode (encode u t) = t.bytes := by
  induction t with
  | nil => rfl
  | cons s t ih =>
    rw [encode_cons, Text.bytes, List.flatMap_cons, ← Text.bytes, ← ih]
    split
    · exact decode_symbolForm_append s _
    · rename_i hs
      refine decode_cons_of_ne ?_ _
      rintro rfl
      exact hs (by rw [UnsafeSet.covers, h, Bool.true_or])

theorem covers_of_leavesForms (hu : u.LeavesForms) {s : Symbol}
    (hs : s = .char '%' ∨ s.hexValue?.isSome = true) : u.covers s = false := by
  rw [UnsafeSet.covers, Bool.or_eq_false_iff, decide_eq_false_iff_not]
  rcases hs with rfl | hs
  · exact ⟨hu.percent, by decide⟩
  · refine ⟨hu.hexDigit s hs, ?_⟩
    have hcode := Symbol.code_of_hexValue? hs
    unfold UnsafeSet.maxLatin1
    omega

/-- The head of an encoded text is a hexadecimal digit only where the text has the same there. -/
theorem head_encode (hu : u.LeavesForms) (s : Symbol) (t : Text) :
    ∃ x rest, encode u (s :: t) = x :: rest ∧
      (s.hexValue? = none ∧ x.hexValue? = none ∨ x = s ∧ rest = encode u t) := by
  rw [encode_cons]
  by_cases hs : u.covers s = true
  · have hnone : s.hexValue? = none := by
      cases h : s.hexValue? with
      | none => rfl
      | some n =>
        rw [covers_of_leavesForms hu (.inr (by rw [h]; rfl))] at hs
        cases hs
    obtain ⟨b, bs, hbytes⟩ := List.exists_cons_of_ne_nil s.bytes_ne_nil
    rw [if_pos hs, symbolForm, hbytes, List.flatMap_cons]
    exact ⟨.char '%', _, rfl, .inl ⟨hnone, Symbol.hexValue?_percent⟩⟩
  · rw [if_neg hs]
    exact ⟨s, encode u t, rfl, .inr ⟨rfl, rfl⟩⟩

/-- After a `%` the encoded text goes on as a form exactly where the text does. -/
theorem hexByte?_encode (hu : u.LeavesForms) (t : Text) :
    hexByte? (encode u t) = hexByte? t ∧
      ((hexByte? t).isSome = true → (encode u t).drop 2 = encode u (t.drop 2)) := by
  cases t with
  | nil => exact ⟨rfl, fun _ => rfl⟩
  | cons s t =>
    obtain ⟨x, rest, hx, ⟨hs, hxnone⟩ | ⟨rfl, rfl⟩⟩ := head_encode hu s t
    · rw [hx, hexByte?_eq_none hxnone, hexByte?_eq_none hs]
      exact ⟨rfl, fun h => by cases h⟩
    rw [hx]
    cases t with
    | nil => exact ⟨rfl, fun h => by cases h⟩
    | cons s' t =>
      obtain ⟨y, rest, hy, ⟨hs, hynone⟩ | ⟨rfl, rfl⟩⟩ := head_encode hu s' t
      · have hnone : ∀ z w, z.hexValue? = none → hexByte? (x :: z :: w) = none := by
          intro z w hz
          rw [hexByte?, hz]
          cases x.hexValue? <;> rfl
        rw [hy, hnone y rest hynone, hnone s' t hs]
        exact ⟨rfl, fun h => by cases h⟩
      · rw [hy]
        exact ⟨rfl, fun _ => rfl⟩

theorem decode_encode_of_leavesForms (hu : u.LeavesForms) (t : Text) :
    decode (encode u t) = decode t := by
  induction hn : t.length using Nat.strongRecOn generalizing t with
  | _ n ih =>
    cases t with
    | nil => rfl
    | cons s t =>
      have htail := ih t.length (by rw [← hn, List.length_cons]; omega) t rfl
      rw [encode_cons]
      by_cases hs : s = .char '%'
      · subst hs
        obtain ⟨hbyte, hdrop⟩ := hexByte?_encode hu t
        rw [covers_of_leavesForms hu (.inl rfl)]
        show decode (.char '%' :: encode u t) = _
        cases hform : hexByte? t with
        | none =>
          rw [decode_percent_of_none hform, decode_percent_of_none (hbyte.trans hform), htail]
        | some b =>
          have hlen : (t.drop 2).length < n := by
            rw [← hn, List.length_cons, List.length_drop]
            omega
          rw [decode_percent_of_some hform, decode_percent_of_some (hbyte.trans hform),
            hdrop (by rw [hform]; rfl), ih _ hlen _ rfl]
      · rw [decode_cons_of_ne hs, ← htail]
        split
        · exact decode_symbolForm_append s _
        · exact decode_cons_of_ne hs _

/-! ## The sets of the standard configuration -/

theorem leavesForms_querySet {c : Config} (h : c.urlSet.LeavesForms) :
    c.querySet.LeavesForms where
  percent := (Bool.or_eq_false_iff.mp (c.lists_urlSet _ ▸ h.percent)).2
  hexDigit s hs := (Bool.or_eq_false_iff.mp (c.lists_urlSet s ▸ h.hexDigit s hs)).2

theorem leavesForms_urlSet_standard : Config.standard.urlSet.LeavesForms := by
  have hcodes : ∀ n, n < 0x80 → (0x30 ≤ n ∧ n ≤ 0x39) ∨ (0x41 ≤ n ∧ n ≤ 0x46) ∨
      (0x61 ≤ n ∧ n ≤ 0x66) → Config.standard.urlSet.ranges.any (·.contains n) = false := by
    decide
  refine ⟨by decide, fun s hs => ?_⟩
  have hcode := Symbol.code_of_hexValue? hs
  exact hcodes s.code (by omega) hcode

/-- **Encoding keeps what a text decodes to.** A set that leaves percent forms alone, as those of
the standard configuration do, changes nothing of what the text decodes to; a set with `%` in it
makes the text decode to its own bytes. -/
theorem decode_encode :
    (∀ (u : UnsafeSet) (t : Text), u.LeavesForms → decode (encode u t) = decode t) ∧
    (∀ (u : UnsafeSet) (t : Text), u.lists (.char '%') = true →
      decode (encode u t) = t.bytes) ∧
    ∀ u : UnsafeSet, Config.standard.queryUnsafe = .ok u ∨ Config.standard.urlUnsafe = .ok u →
      u.LeavesForms := by
  refine ⟨fun u t hu => decode_encode_of_leavesForms hu t,
    fun u t hu => decode_encode_of_lists hu t, ?_⟩
  rw [Config.queryUnsafe_eq Config.standard_encodable,
    Config.urlUnsafe_eq Config.standard_encodable]
  rintro u (h | h)
  · cases h
    exact leavesForms_querySet leavesForms_urlSet_standard
  · cases h
    exact leavesForms_urlSet_standard

/-- A text with a form, a broken form, a letter outside of Latin-1 and a stray byte. -/
def mixedText : Text := Text.ofString "a%2C%4é%ŝ" ++ [.stray 0xE9]

theorem decode_encode_mixedText :
    Config.standard.queryUnsafe = .ok Config.standard.querySet ∧
      (UnsafeSet.mk [⟨0x25, 0x25⟩, ⟨0x43, 0x43⟩]).lists (.char '%') = true ∧
      decode (encode Config.standard.querySet mixedText) = decode mixedText ∧
      decode (encode ⟨[⟨0x25, 0x25⟩, ⟨0x43, 0x43⟩]⟩ mixedText) = mixedText.bytes := by
  have hset := Config.queryUnsafe_eq Config.standard_encodable
  exact ⟨hset, by decide, decode_encode.1 _ _ (decode_encode.2.2 _ (.inl hset)),
    decode_encode.2.1 _ _ (by decide)⟩

end Percent

end SearchTemplate
