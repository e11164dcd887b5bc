import SearchTemplate.Proofs.Yaml.Reading
import SearchTemplate.Yaml.Token.Lexer

/-!
# The faults of the lexer

The tokens of a text are broken only by what `LexicalFault` lists
(`Token.lexicalFault_of_mem_ofText`). The invariant of the lexer is that its cursor stays in the
text and that its tokens are of this kind (`Lexer.Within`): `Lexer.step` keeps it, and `Lexer.run`
with it.
-/

namespace SearchTemplate.Yaml

variable {text : Text} {c : Cursor}

/-! ## Scalars without quotes -/

namespace Cursor.Within

theorem leadingBreaks (fuel : Nat) (hc : c.Within text) :
    (leadingBreaks fuel c).2.2.Within text := by
  induction fuel generalizing c with
  | zero => exact hc
  | succ fuel ih =>
    have hbreak := (hc.takeWhile isSpace).takeBreak
    rw [Yaml.leadingBreaks]
    dsimp only
    generalize Cursor.takeBreak _ = taken at hbreak ⊢
    split
    · exact hbreak
    · exact ih hbreak

theorem blockBreaks (indent fuel : Nat) (hc : c.Within text) :
    (blockBreaks indent fuel c).2.Within text := by
  induction fuel generalizing c with
  | zero => exact hc
  | succ fuel ih =>
    have hbreak : (skipIndent indent c).takeBreak.2.Within text := (hc.skip _).takeBreak
    rw [Yaml.blockBreaks]
    generalize Cursor.takeBreak _ = taken at hbreak ⊢
    split
    · exact hbreak
    · exact ih hbreak

theorem readLines (folded : Bool) (chomping : Chomping) (indent fuel : Nat) (read breaks : Text)
    (hc : c.Within text) : (readLines folded chomping indent fuel read breaks c).2.Within text := by
  induction fuel generalizing read breaks c with
  | zero => exact hc
  | succ fuel ih =>
    have hnext := (hc.takeWhile fun s => !isBreak s).takeBreak
    rw [Yaml.readLines]
    dsimp only
    split
    · exact ih _ _ (hnext.blockBreaks _ _)
    · split <;> exact hnext.blockBreaks _ _

theorem foldedBreaks (fuel : Nat) (hc : c.Within text) :
    (foldedBreaks fuel c).2.Within text := by
  induction fuel generalizing c with
  | zero => exact hc
  | succ fuel ih =>
    have hbreak := hc.skipSpaces.takeBreak
    rw [Yaml.foldedBreaks]
    dsimp only
    generalize Cursor.takeBreak _ = taken at hbreak ⊢
    split
    · exact hbreak
    · split
      · exact hbreak
      · exact ih hbreak

theorem plainSpace (hc : c.Within text) : (plainSpace c).2.2.Within text := by
  have hbreak := (hc.takeWhile isSpace).takeBreak
  rw [Yaml.plainSpace]
  dsimp only
  generalize Cursor.takeBreak _ = taken at hbreak ⊢
  split
  · exact hbreak
  · split
    · exact hbreak
    · rename_i c _ _
      have hfolded := hbreak.foldedBreaks (c.rest.length + 1)
      dsimp only at hfolded
      generalize Yaml.foldedBreaks _ _ = folded at hfolded ⊢
      split
      · exact hfolded
      · exact hfolded

theorem readPlainFrom (flow : Bool) (indent : Int) (fuel : Nat) (read space : Text)
    (endedLine : Bool) (hc : c.Within text) :
    (readPlainFrom flow indent fuel read space endedLine c).cursor.Within text := by
  induction fuel generalizing read space endedLine c with
  | zero => exact hc
  | succ fuel ih =>
    rw [Yaml.readPlainFrom]
    dsimp only
    split
    · exact hc
    · have hspace := (hc.skip (plainPart flow c.rest).length).plainSpace
      split
      · exact hspace
      · exact ih _ _ _ hspace

theorem readPlain (flow : Bool) (indent : Int) (hc : c.Within text) :
    (readPlain flow indent c).cursor.Within text :=
  hc.readPlainFrom _ _ _ _ _ _

theorem readIndicators (hc : c.Within text) : (readIndicators c).cursor.Within text := by
  rw [Yaml.readIndicators]
  split
  · split
    · exact hc.skip 2
    · exact hc.next
  · split
    · split
      · exact hc.skip 2
      · exact hc.next
    · exact hc

end Cursor.Within

theorem reads_readBlockHeader (hc : c.Within text) :
    Reads text (fun header => header.cursor.Within text) (readBlockHeader c) := by
  rw [readBlockHeader]
  exact .guarded .malformed fun _ => .bind (reads_endLine hc.readIndicators) fun _ hr => .pure hr

theorem reads_readBlock (folded : Bool) (parent : Int) (hc : c.Within text) :
    ReadsOn text (readBlock folded parent c) := by
  rw [readBlock]
  refine .bind (reads_readBlockHeader hc) fun header hheader => ?_
  have hlines (indent : Nat) (breaks : Text) {c : Cursor} (hc : c.Within text) :
      ReadsOn text (if inBlock indent c then
        pure (readLines folded header.chomping indent (header.cursor.rest.length + 1) [] breaks c)
      else pure (if header.chomping = .keep then breaks else [], c)) := by
    split
    · exact hc.readLines _ _ _ _ _ _
    · exact hc
  dsimp only
  split
  · exact hlines _ _ (hheader.blockBreaks _ _)
  · exact hlines _ _ (hheader.leadingBreaks _)

/-! ## The lexer -/

namespace Lexer

variable {l : Lexer} {token : Token}

/-- The cursor stands in the text, and the tokens are broken only by its faults. -/
structure Within (text : Text) (l : Lexer) : Prop where
  cursor : l.cursor.Within text
  tokens : ∀ token ∈ l.tokens, token.Sound text

namespace Within

theorem emit (hl : l.Within text) (ht : token.Sound text) : (l.emit token).Within text :=
  ⟨hl.cursor, List.forall_mem_cons.mpr ⟨ht, hl.tokens⟩⟩

theorem insert (hl : l.Within text) (number : Nat) (ht : token.Sound text) :
    (l.insert number token).Within text := by
  refine ⟨hl.cursor, fun t hmem => ?_⟩
  rcases List.mem_append.mp hmem with hmem | hmem
  · exact hl.tokens t (List.mem_of_mem_take hmem)
  · rcases List.mem_cons.mp hmem with rfl | hmem
    · exact ht
    · exact hl.tokens t (List.mem_of_mem_drop hmem)

theorem breakOff {fault : Fault} (hl : l.Within text) (hf : LexicalFault text fault) :
    (l.breakOff fault).Within text := by
  refine ⟨hl.cursor, List.forall_mem_cons.mpr ⟨?_, fun t hmem => ?_⟩⟩
  · rintro _ ⟨⟩
    exact hf
  · exact hl.tokens t (List.mem_of_mem_drop hmem)

theorem closeBlocks (column : Int) (outer : List Int) (hl : l.Within text) :
    (closeBlocks column outer l).Within text := by
  induction outer generalizing l with
  | nil => exact hl
  | cons around outer ih =>
    rw [Lexer.closeBlocks]
    split
    · exact ih ⟨hl.cursor, List.forall_mem_cons.mpr ⟨nofun, hl.tokens⟩⟩
    · exact hl

theorem unwind (hl : l.Within text) (column : Int) : (l.unwind column).Within text := by
  rw [Lexer.unwind]
  split
  · exact hl
  · exact hl.closeBlocks _ _

theorem openBlock (hl : l.Within text) (column number : Nat) (ht : token.Sound text) :
    (l.openBlock column number token).Within text := by
  rw [Lexer.openBlock]
  split
  · refine Within.insert ?_ number ht
    exact ⟨hl.cursor, hl.tokens⟩
  · exact hl

theorem take (hl : l.Within text) (n : Nat) (ht : token.Sound text) :
    (l.take n token).Within text :=
  emit ⟨hl.cursor.skip n, hl.tokens⟩ ht

theorem scan (hl : l.Within text) {read : Cursor → Except Fault (Token × Cursor)}
    (hread : ReadsToken text (read l.cursor)) : (l.scan read).Within text := by
  rw [Lexer.scan]
  generalize read l.cursor = result at hread ⊢
  cases result with
  | ok r => exact emit ⟨hread.2, hl.tokens⟩ hread.1
  | error fault => exact hl.breakOff hread

theorem skipToToken (fuel : Nat) (hl : l.Within text) : (skipToToken fuel l).Within text := by
  induction fuel generalizing l with
  | zero => exact hl
  | succ fuel ih =>
    have hbreak := hl.cursor.skipSpaces.skipComment.takeBreak
    rw [Lexer.skipToToken]
    generalize Cursor.takeBreak _ = taken at hbreak ⊢
    split
    · exact ⟨hbreak, hl.tokens⟩
    · exact ih ⟨hbreak, hl.tokens⟩

end Within

/-- A step of the lexer keeps it in the text. -/
abbrev Steps (text : Text) : Except Fault Lexer → Prop := Reads text (Within text)

theorem steps_dropStale (hl : l.Within text) : Steps text l.dropStale := by
  rw [dropStale]
  split
  · exact .malformed
  · exact ⟨hl.cursor, hl.tokens⟩

theorem steps_dropKey (hl : l.Within text) : Steps text l.dropKey := by
  rw [dropKey]
  split
  · exact .malformed
  · exact ⟨hl.cursor, hl.tokens⟩

theorem steps_saveKey (hl : l.Within text) : Steps text l.saveKey := by
  rw [saveKey]
  split
  · exact .bind (steps_dropKey hl) fun l hl => .pure ⟨hl.cursor, hl.tokens⟩
  · exact hl

theorem steps_endBlocks (hl : l.Within text) : Steps text l.endBlocks :=
  .bind (steps_dropKey (hl.unwind _)) fun _ hl => .pure ⟨hl.cursor, hl.tokens⟩

theorem steps_readStreamEnd (hl : l.Within text) : Steps text l.readStreamEnd :=
  .bind (steps_endBlocks hl) fun _ hl => .pure (hl.emit nofun)

theorem steps_readMarker (hl : l.Within text) (ht : token.Sound text) :
    Steps text (l.readMarker token) :=
  .bind (steps_endBlocks hl) fun _ hl => .pure (hl.take 3 ht)

theorem steps_openBracket (hl : l.Within text) (ht : token.Sound text) :
    Steps text (l.openBracket token) := by
  refine .bind (steps_saveKey hl) fun _ hl => .pure (Within.take ?_ 1 ht)
  exact ⟨hl.cursor, hl.tokens⟩

theorem steps_closeBracket (hl : l.Within text) (ht : token.Sound text) :
    Steps text (l.closeBracket token) := by
  refine .bind (steps_dropKey hl) fun _ hl => .pure (Within.take ?_ 1 ht)
  exact ⟨hl.cursor, hl.tokens⟩

theorem steps_readFlowEntry (hl : l.Within text) : Steps text l.readFlowEntry :=
  .bind (steps_dropKey ⟨hl.cursor, hl.tokens⟩) fun _ hl => .pure (hl.take 1 nofun)

theorem steps_readBlockEntry (hl : l.Within text) : Steps text l.readBlockEntry := by
  rw [readBlockEntry]
  refine .guarded .malformed fun _ => .bind (steps_dropKey ?_) fun _ hl => .pure (hl.take 1 nofun)
  have hopen : (if l.inBrackets then l
      else l.openBlock l.cursor.column l.tokens.length .blockSequenceStart).Within text := by
    split
    · exact hl
    · exact hl.openBlock _ _ nofun
  exact ⟨hopen.cursor, hopen.tokens⟩

theorem steps_openMapping (hl : l.Within text) : Steps text l.openMapping := by
  rw [openMapping]
  split
  · exact hl
  · split
    · exact hl.openBlock _ _ nofun
    · exact .malformed

theorem steps_readKey (hl : l.Within text) : Steps text l.readKey :=
  .bind (steps_openMapping hl) fun _ hl =>
    .bind (steps_dropKey ⟨hl.cursor, hl.tokens⟩) fun _ hl => .pure (hl.take 1 nofun)

theorem steps_readValue (hl : l.Within text) : Steps text l.readValue := by
  rw [readValue]
  split
  · rename_i key _
    have hkey : Within text
        ({ l with pending := l.pending.filter fun key => key.depth != l.depth }.insert
          key.token .key) := by
      refine Within.insert ?_ _ nofun
      exact ⟨hl.cursor, hl.tokens⟩
    have hsound : Token.Sound text .blockMappingStart := nofun
    have hopen := hkey.openBlock key.column key.token hsound
    refine Ends.pure (Within.take ?_ 1 nofun)
    split
    · exact ⟨hkey.cursor, hkey.tokens⟩
    · exact ⟨hopen.cursor, hopen.tokens⟩
  · exact .bind (steps_openMapping hl) fun _ hl =>
      .bind (steps_dropKey ⟨hl.cursor, hl.tokens⟩) fun _ hl => .pure (hl.take 1 nofun)

theorem steps_readKeyPart {read : Cursor → Except Fault (Token × Cursor)} (hl : l.Within text)
    (hread : ∀ c : Cursor, c.Within text → ReadsToken text (read c)) :
    Steps text (l.readKeyPart read) := by
  refine .bind (steps_saveKey hl) fun _ hl => .pure (Within.scan ?_ (hread _ hl.cursor))
  exact ⟨hl.cursor, hl.tokens⟩

theorem steps_readBlockToken (folded : Bool) (hl : l.Within text) :
    Steps text (l.readBlockToken folded) :=
  .bind (steps_dropKey ⟨hl.cursor, hl.tokens⟩) fun _ hl =>
    .bind (reads_readBlock _ _ hl.cursor.next) fun ⟨_, _⟩ hr =>
      .pure (Within.emit ⟨hr, hl.tokens⟩ nofun)

theorem steps_readPlainToken (hl : l.Within text) : Steps text l.readPlainToken :=
  .bind (steps_saveKey hl) fun _ hl =>
    .pure (Within.emit ⟨hl.cursor.readPlain _ _, hl.tokens⟩ nofun)

theorem steps_readToken (s : Symbol) (hl : l.Within text) : Steps text (l.readToken s) := by
  have hnamed (token : Text → Token) (ht : ∀ name, (token name).Sound text) (c : Cursor)
      (hc : c.Within text) : ReadsToken text (readNamed token c) :=
    .bind (reads_readName hc.next) fun ⟨_, _⟩ hr => .pure ⟨ht _, hr⟩
  have htag (c : Cursor) (hc : c.Within text) : ReadsToken text (readTagToken c) :=
    .bind (reads_readTag hc) fun ⟨_, _⟩ hr => .pure ⟨nofun, hr⟩
  have hquoted (c : Cursor) (hc : c.Within text) : ReadsToken text (readQuotedToken s c) :=
    .bind (reads_readQuoted s hc) fun ⟨_, _⟩ hr => .pure ⟨nofun, hr⟩
  unfold readToken
  dsimp only
  split
  · split
    · exact .bind (steps_endBlocks hl) fun _ hl => .pure (hl.scan (reads_readDirective hl.cursor))
    · exact .malformed
  · exact steps_openBracket hl nofun
  · exact steps_openBracket hl nofun
  · exact steps_closeBracket hl nofun
  · exact steps_closeBracket hl nofun
  · exact steps_readFlowEntry hl
  · exact steps_readKeyPart hl (hnamed _ fun _ => nofun)
  · exact steps_readKeyPart hl (hnamed _ fun _ => nofun)
  · exact steps_readKeyPart hl htag
  · exact steps_readKeyPart hl hquoted
  · exact steps_readKeyPart hl hquoted
  · split
    · exact steps_readMarker hl nofun
    split
    · exact steps_readMarker hl nofun
    split
    · exact steps_readBlockEntry hl
    split
    · exact steps_readKey hl
    split
    · exact steps_readValue hl
    split
    · exact steps_readBlockToken _ hl
    split
    · exact steps_readBlockToken _ hl
    split
    · exact steps_readPlainToken hl
    · exact .malformed

theorem steps_step (hl : l.Within text) : Steps text l.step := by
  rw [step]
  refine .bind (steps_dropStale (hl.skipToToken _)) fun l hl => ?_
  dsimp only
  split
  · exact steps_readStreamEnd (hl.unwind _)
  · exact steps_readToken _ (hl.unwind _)

theorem Within.run (fuel : Nat) (hl : l.Within text) : (run fuel l).Within text := by
  induction fuel generalizing l with
  | zero => exact hl
  | succ fuel ih =>
    have hstep := steps_step hl
    rw [Lexer.run]
    generalize l.step = next at hstep ⊢
    cases next with
    | error fault => exact hl.breakOff hstep
    | ok l' =>
      dsimp only
      split
      · exact hstep
      · exact ih hstep

end Lexer

theorem Token.lexicalFault_of_mem_ofText {text : Text} {fault : Fault}
    (h : .broken fault ∈ Token.ofText text) : LexicalFault text fault := by
  rw [Token.ofText] at h
  split at h
  · have hstart : Cursor.Within text { rest := text } := List.suffix_refl text
    rw [List.mem_reverse] at h
    refine (Lexer.Within.run _ (l := _) ⟨?_, ?_⟩).tokens _ h fault rfl
    · dsimp only
      split
      · exact hstart.next
      · exact hstart
    · exact fun _ hmem => nomatch hmem
  · obtain rfl : fault = .malformed := by simpa using h
    exact .malformed

end SearchTemplate.Yaml
