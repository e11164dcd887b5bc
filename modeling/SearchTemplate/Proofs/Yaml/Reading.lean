import Mathlib.Data.List.Infix
import Mathlib.Data.List.TakeWhile
import SearchTemplate.Proofs.Yaml.Fault
import SearchTemplate.Yaml.Token.Directive
import SearchTemplate.Yaml.Token.Quoted

/-!
# The faults of reading

What is read at a cursor has few faults besides `Fault.malformed`: an escape for a code beyond all
symbols and a number of a version with too many digits. Both stand in the text as they are
(`LexicalFault`). `Reads` says of a reader in a text that its faults are of these kinds and that the
cursor stays in the text, which is what the next reader starts from.
-/

namespace SearchTemplate.Yaml

variable {α : Type} {text : Text}

/-- What can be wrong with a text apart from its structure. -/
inductive LexicalFault (text : Text) : Fault → Prop
  | malformed : LexicalFault text .malformed
  | escape {letter : Symbol} {digits : Text} {code : Nat}
      (length : codeDigits? letter = some digits.length)
      (value : Text.hexNumber? digits = some code) (large : 0x10FFFF < code)
      (stands : .char '\\' :: letter :: digits <:+: text) : LexicalFault text (.codeOutOfRange code)
  | version {digits : Text} (all_digits : ∀ s ∈ digits, s.isDigit)
      (long : Number.maxDigits < digits.length) (stands : digits <:+: text) :
      LexicalFault text .notANumber

/-- Faults are lexical ones of the text, and a result has a property. -/
abbrev Reads (text : Text) (P : α → Prop) : Except Fault α → Prop := Ends (LexicalFault text) P

theorem Reads.malformed {P : α → Prop} : Reads text P (.error .malformed) :=
  LexicalFault.malformed

/-! ## Cursors in a text -/

/-- What follows the cursor is the end of the text. -/
def Cursor.Within (text : Text) (c : Cursor) : Prop := c.rest <:+ text

namespace Cursor

theorem rest_next (c : Cursor) : c.next.rest = c.rest.tail := by
  rw [next]
  split
  · rename_i hnil
    rw [hnil, List.tail_nil]
  · rename_i hcons
    rw [hcons, List.tail_cons]
    split
    · rfl
    · split <;> rfl

theorem rest_eq_of_peek {c : Cursor} {s : Symbol} (h : c.peek = some s) :
    c.rest = s :: c.next.rest := by
  rw [rest_next]
  exact List.eq_cons_of_mem_head? h

namespace Within

variable {c : Cursor}

theorem next (hc : c.Within text) : c.next.Within text := by
  rw [Cursor.Within, rest_next]
  exact (List.tail_suffix _).trans hc

theorem skip (hc : c.Within text) (n : Nat) : (c.skip n).Within text := by
  induction n generalizing c with
  | zero => exact hc
  | succ n ih => exact ih hc.next

theorem takeWhile (hc : c.Within text) (p : Symbol → Bool) : (c.takeWhile p).2.Within text :=
  hc.skip _

theorem skipSpaces (hc : c.Within text) : c.skipSpaces.Within text := hc.takeWhile _

theorem skipComment (hc : c.Within text) : c.skipComment.Within text := by
  rw [Cursor.skipComment]
  split
  · exact hc.takeWhile _
  · exact hc

theorem takeBreak (hc : c.Within text) : c.takeBreak.2.Within text := by
  rw [Cursor.takeBreak]
  split
  · split
    · exact hc.next
    · split
      · exact hc.next
      · exact hc
  · exact hc

end Within

end Cursor

/-- A reader keeps its cursor in the text. -/
abbrev ReadsOn (text : Text) : Except Fault (α × Cursor) → Prop :=
  Reads text fun r => r.2.Within text

/-- A token is broken only by a lexical fault of the text. -/
def Token.Sound (text : Text) (token : Token) : Prop :=
  ∀ fault, token = .broken fault → LexicalFault text fault

/-- A reader of tokens keeps its cursor in the text. -/
abbrev ReadsToken (text : Text) : Except Fault (Token × Cursor) → Prop :=
  Reads text fun r => r.1.Sound text ∧ r.2.Within text

variable {c : Cursor}

/-! ## Names and tags -/

theorem reads_readName (hc : c.Within text) : ReadsOn text (readName c) := by
  rw [readName]
  dsimp only
  split
  · exact .malformed
  · split
    · exact hc.takeWhile _
    · exact .malformed

theorem reads_readUriBytes (fuel : Nat) (hc : c.Within text) :
    ReadsOn text (readUriBytes fuel c) := by
  induction fuel generalizing c with
  | zero => exact hc
  | succ fuel ih =>
    rw [readUriBytes]
    split
    · split
      · exact .bind (ih (hc.skip 3)) fun r hr => hr
      · exact .malformed
    · exact .malformed
    · exact hc

theorem reads_readUriFrom (fuel : Nat) (read : Text) (hc : c.Within text) :
    ReadsOn text (readUriFrom fuel read c) := by
  induction fuel generalizing read c with
  | zero => exact hc
  | succ fuel ih =>
    rw [readUriFrom]
    refine .bind (reads_readUriBytes _ (hc.takeWhile _)) fun r hr => ?_
    dsimp only
    split
    · exact .malformed
    · split
      · exact hr
      · exact ih _ hr

theorem reads_readUri (hc : c.Within text) : ReadsOn text (readUri c) := by
  rw [readUri]
  exact .bind (reads_readUriFrom _ _ hc) fun r hr => .guarded .malformed fun _ => hr

theorem reads_readHandle (hc : c.Within text) : ReadsOn text (readHandle c) := by
  rw [readHandle]
  dsimp only
  split
  · exact .malformed
  · split
    · exact hc.next
    · split
      · exact (hc.next.takeWhile _).next
      · exact .malformed

theorem reads_readTagParts (hc : c.Within text) : ReadsOn text (readTagParts c) := by
  rw [readTagParts]
  split
  · refine .bind (reads_readUri (hc.skip 2)) fun ⟨_, _⟩ hr => ?_
    dsimp only
    split
    · exact hr.next
    · exact .malformed
  · split
    · exact hc.next
    · have hsuffix {handle : Text} {c : Cursor} (hc : c.Within text) :
          ReadsOn text (do let r ← readUri c; return (WrittenTag.mk handle r.1, r.2)) :=
        .bind (reads_readUri hc) fun _ hr => .pure hr
      dsimp only
      split
      · exact .bind (reads_readHandle hc) fun ⟨_, _⟩ hr => hsuffix hr
      · exact hsuffix hc.next

theorem reads_readTag (hc : c.Within text) : ReadsOn text (readTag c) := by
  rw [readTag]
  refine .bind (reads_readTagParts hc) fun ⟨_, _⟩ hr => ?_
  dsimp only
  split
  · exact hr
  · exact .malformed

theorem reads_endLine (hc : c.Within text) : Reads text (Cursor.Within text) (endLine c) := by
  rw [endLine]
  split
  · exact hc.skipSpaces.skipComment.takeBreak
  · exact .malformed

/-! ## Directives -/

theorem digitValue?_of_isDigit {s : Symbol} (h : s.isDigit) :
    ∃ d, Number.digitValue? s = some d ∧ d < 10 := by
  cases s with
  | stray b => cases h
  | char c =>
    have hc : c.isDigit := by
      by_contra hn
      simp [Symbol.isDigit, Symbol.digit?, hn] at h
    have hle : 0x30 ≤ c.toNat ∧ c.toNat ≤ 0x39 := by
      simpa [Char.isDigit, Char.le_def, UInt32.le_iff_toNat_le] using hc
    refine ⟨c.toNat - 0x30, ?_, by omega⟩
    simp [Number.digitValue?, Symbol.decimalValue?, decimalZeros, Symbol.code, hle]

theorem exists_ofDigits? {digits : Text} (h : ∀ s ∈ digits, s.isDigit) :
    ∃ n, Number.ofDigits? 10 digits = some n := by
  rw [Number.ofDigits?]
  generalize 0 = start
  induction digits generalizing start with
  | nil => exact ⟨start, rfl⟩
  | cons s digits ih =>
    rw [List.forall_mem_cons] at h
    obtain ⟨d, hd, hlt⟩ := digitValue?_of_isDigit h.1
    simp only [List.foldlM_cons, hd, if_pos hlt]
    exact ih h.2 _

theorem reads_readVersionPart (hc : c.Within text) : ReadsOn text (readVersionPart c) := by
  have hdigits : ∀ s ∈ (c.takeWhile Symbol.isDigit).1, s.isDigit := by
    intro s hs
    exact List.mem_takeWhile_imp hs
  have hstands : (c.takeWhile Symbol.isDigit).1 <:+: text :=
    (List.takeWhile_prefix _).isInfix.trans hc.isInfix
  rw [readVersionPart]
  dsimp only
  split
  · exact .malformed
  · rename_i hne
    split
    · exact hc.takeWhile _
    · rename_i hnone
      obtain ⟨n, hn⟩ := exists_ofDigits? hdigits
      refine LexicalFault.version hdigits ?_ hstands
      by_contra hlong
      rw [Number.readDigits?, if_neg, hn] at hnone
      · cases hnone
      · rintro (hempty | ⟨-, hlt⟩)
        · exact hne hempty
        · exact hlong hlt

theorem reads_readVersion (hc : c.Within text) : ReadsToken text (readVersion c) := by
  rw [readVersion]
  refine .bind (reads_readVersionPart hc.skipSpaces) fun ⟨_, _⟩ hr => .guarded .malformed fun _ =>
    .bind (reads_readVersionPart hr.next) fun ⟨_, _⟩ hr => ?_
  dsimp only
  split
  · exact ⟨nofun, hr⟩
  · exact .malformed

theorem reads_readTagMeaning (hc : c.Within text) : ReadsToken text (readTagMeaning c) := by
  rw [readTagMeaning]
  refine .bind (reads_readHandle hc.skipSpaces) fun ⟨_, _⟩ hr => .guarded .malformed fun _ =>
    .bind (reads_readUri hr.skipSpaces) fun ⟨_, _⟩ hr => ?_
  dsimp only
  split
  · exact ⟨nofun, hr⟩
  · exact .malformed

theorem reads_readDirective (hc : c.Within text) : ReadsToken text (readDirective c) := by
  rw [readDirective]
  have hname := hc.next.takeWhile isNameSymbol
  have hend {token : Token} {c : Cursor} (ht : token.Sound text) (hc : c.Within text) :
      ReadsToken text (do return (token, ← endLine c)) :=
    .bind (reads_endLine hc) fun _ hr => .pure ⟨ht, hr⟩
  refine .guarded .malformed fun _ => ?_
  dsimp only
  split
  · exact .bind (reads_readVersion hname) fun ⟨_, _⟩ hr => hend hr.1 hr.2
  · split
    · exact .bind (reads_readTagMeaning hname) fun ⟨_, _⟩ hr => hend hr.1 hr.2
    · exact hend nofun (hname.takeWhile _)

/-! ## Quoted scalars -/

theorem reads_quotedBreaks (fuel : Nat) (hc : c.Within text) :
    ReadsOn text (quotedBreaks fuel c) := by
  induction fuel generalizing c with
  | zero => exact .malformed
  | succ fuel ih =>
    have hbreak := (hc.takeWhile isSpaceOrTab).takeBreak
    rw [quotedBreaks]
    split
    · exact .malformed
    · dsimp only
      generalize Cursor.takeBreak _ = taken at hbreak ⊢
      split
      · exact hbreak
      · exact .bind (ih hbreak) fun ⟨_, _⟩ hr => hr

theorem reads_readBreaks (hc : c.Within text) : ReadsOn text (readBreaks c) :=
  reads_quotedBreaks _ hc

theorem reads_quotedSpace (hc : c.Within text) : ReadsOn text (quotedSpace c) := by
  have hspaces := hc.takeWhile isSpaceOrTab
  have hbreak := hspaces.takeBreak
  rw [quotedSpace]
  dsimp only
  generalize Cursor.takeBreak _ = taken at hbreak ⊢
  split
  · exact .malformed
  · exact hspaces
  · exact .bind (reads_readBreaks hbreak) fun ⟨_, _⟩ hr => hr

theorem symbolOfCode_eq_error {code : Nat} {fault : Fault} (h : symbolOfCode code = .error fault) :
    0x10FFFF < code ∧ fault = .codeOutOfRange code := by
  rw [symbolOfCode] at h
  split at h
  · rename_i hlarge
    cases h
    exact ⟨hlarge, rfl⟩
  · split at h <;> cases h

/-- An escape after its backslash. -/
theorem reads_readEscape (hc : c.Within text) (hpeek : c.peek = some (.char '\\')) :
    ReadsOn text (readEscape c.next) := by
  have hescape := Cursor.rest_eq_of_peek hpeek
  rw [readEscape]
  split
  · exact .malformed
  · rename_i s hs
    split
    · exact hc.next.next
    · rename_i n _ hn
      -- The letter and the digits stand behind the backslash at the cursor.
      have hstands : .char '\\' :: s :: c.next.next.rest.take n <:+: text := by
        rw [Cursor.Within, hescape, Cursor.rest_eq_of_peek hs] at hc
        refine List.IsInfix.trans (List.IsPrefix.isInfix ?_) hc.isInfix
        simpa using List.take_prefix n c.next.next.rest
      dsimp only
      split
      · rename_i code hcode
        rw [Option.ite_none_right_eq_some] at hcode
        obtain ⟨hlength, hcode⟩ := hcode
        refine .bind (P := fun _ => True) ?_ fun _ _ => .pure (hc.next.next.skip n)
        cases hsymbol : symbolOfCode code with
        | ok symbol => trivial
        | error fault =>
          obtain ⟨hlarge, rfl⟩ := symbolOfCode_eq_error hsymbol
          exact LexicalFault.escape (hlength.symm ▸ hn) hcode hlarge hstands
      · exact .malformed
    · split
      · exact reads_readBreaks hc.next.takeBreak
      · exact .malformed

theorem reads_readQuotedFrom (quote : Symbol) (fuel : Nat) (read : Text) (hc : c.Within text) :
    ReadsOn text (readQuotedFrom quote fuel read c) := by
  induction fuel generalizing read c with
  | zero => exact .malformed
  | succ fuel ih =>
    have hrun := hc.takeWhile fun s => !endsQuotedRun s
    rw [readQuotedFrom]
    dsimp only
    split
    · exact .malformed
    · rename_i s hpeek
      split
      · split
        · exact ih _ (hrun.skip 2)
        · exact hrun.next
      · split
        · rename_i hescape
          rw [hescape.1] at hpeek
          exact .bind (reads_readEscape hrun hpeek) fun ⟨_, _⟩ hr => ih _ hr
        · split
          · exact .bind (reads_quotedSpace hrun) fun ⟨_, _⟩ hr => ih _ hr
          · exact ih _ hrun.next

theorem reads_readQuoted (quote : Symbol) (hc : c.Within text) :
    ReadsOn text (readQuoted quote c) :=
  reads_readQuotedFrom _ _ _ hc.next

end SearchTemplate.Yaml
