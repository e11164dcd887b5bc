import SearchTemplate.Proofs.Yaml.Fault
import SearchTemplate.Yaml.Node.Parser

/-!
# The faults of the parser

Reading nodes has no faults of its own but `Fault.malformed`: any other is that of a broken token
(`Document.ofTokens?_eq_error`). The parser only ever drops tokens, so that the ones which it meets
are among those that it started with; `Parser.FaultsIn` says both of a part of the parser, and it
passes from the parts to the whole.
-/

namespace SearchTemplate.Yaml

namespace Parser

variable {α β : Type} {tokens : List Token}

/-- From tokens among the given ones, all faults but `malformed` are those of broken tokens among
them, and the tokens that are left are among them too. -/
def FaultsIn (tokens : List Token) (p : Parser α) : Prop :=
  ∀ s : State, s.tokens ⊆ tokens →
    Ends (fun fault => fault = .malformed ∨ .broken fault ∈ tokens)
      (fun r => r.2.tokens ⊆ tokens) (p s)

namespace FaultsIn

theorem pure (a : α) : FaultsIn tokens (pure a : Parser α) := fun _ hs => hs

theorem bind {p : Parser α} {f : α → Parser β} (hp : FaultsIn tokens p)
    (hf : ∀ a, FaultsIn tokens (f a)) : FaultsIn tokens (p >>= f) :=
  fun s hs => .bind (hp s hs) fun r hr => hf r.1 r.2 hr

theorem fail : FaultsIn tokens (fail : Parser α) := fun _ _ => .inl rfl

theorem get : FaultsIn tokens (get : Parser State) := fun _ hs => hs

theorem modify {f : State → State} (hf : ∀ s, (f s).tokens ⊆ s.tokens) :
    FaultsIn tokens (modify f : Parser Unit) := fun s hs => List.Subset.trans (hf s) hs

/-- Something done before the rest under a condition. -/
theorem guarded {c : Prop} [Decidable c] {p : Parser Unit} {rest : Unit → Parser α}
    (hp : FaultsIn tokens p) (hrest : ∀ u, FaultsIn tokens (rest u)) :
    FaultsIn tokens (if c then p >>= rest else rest ()) := by
  split
  · exact .bind hp hrest
  · exact hrest ()

end FaultsIn

/-! ## Single tokens and properties -/

theorem faultsIn_peek : FaultsIn tokens peek := by
  rintro ⟨_ | ⟨token, rest⟩, handles, anchors, anchored⟩ hs
  · exact .inl rfl
  · cases token with
    | broken fault => exact .inr (hs List.mem_cons_self)
    | _ => exact hs

theorem faultsIn_advance : FaultsIn tokens advance :=
  .modify fun s => List.drop_subset 1 s.tokens

theorem faultsIn_accept (token : Token) : FaultsIn tokens (accept token) := by
  rw [accept]
  refine .bind faultsIn_peek fun _ => ?_
  split
  · exact .bind faultsIn_advance fun _ => .pure true
  · exact .pure false

theorem faultsIn_expect (token : Token) : FaultsIn tokens (expect token) := by
  rw [expect]
  refine .bind (faultsIn_accept token) fun _ => ?_
  split
  · exact .fail
  · exact .pure ()

theorem faultsIn_at? (ends : List Token) : FaultsIn tokens (at? ends) :=
  .bind faultsIn_peek fun _ => .pure _

theorem faultsIn_acceptAnchor : FaultsIn tokens acceptAnchor := by
  rw [acceptAnchor]
  refine .bind faultsIn_peek fun _ => ?_
  split
  · exact .bind faultsIn_advance fun _ => .pure _
  · exact .pure _

theorem faultsIn_acceptTag : FaultsIn tokens acceptTag := by
  rw [acceptTag]
  refine .bind faultsIn_peek fun _ => ?_
  split
  · exact .bind faultsIn_advance fun _ => .pure _
  · exact .pure _

theorem faultsIn_properties : FaultsIn tokens properties := by
  rw [properties]
  refine .bind faultsIn_acceptAnchor fun _ => ?_
  split
  · exact .bind faultsIn_acceptTag fun _ => .pure _
  · refine .bind faultsIn_acceptTag fun _ => ?_
    split
    · exact .bind faultsIn_acceptAnchor fun _ => .pure _
    · exact .pure _

theorem faultsIn_resolveTag (written : WrittenTag) : FaultsIn tokens (resolveTag written) := by
  rw [resolveTag]
  split
  · exact .pure _
  · refine .bind .get fun _ => ?_
    split
    · exact .pure _
    · exact .fail

theorem faultsIn_mapM_resolveTag (written : Option WrittenTag) :
    FaultsIn tokens (written.mapM resolveTag) := by
  cases written with
  | none => exact .pure none
  | some tag => exact .bind (faultsIn_resolveTag tag) fun _ => .pure _

theorem faultsIn_declare (anchor : Option Text) : FaultsIn tokens (declare anchor) := by
  cases anchor with
  | none => exact .pure ()
  | some name =>
    rw [declare]
    exact .bind .get fun _ => .guarded .fail fun _ => .modify fun _ => List.Subset.refl _

theorem faultsIn_finish (anchor : Option Text) (n : Node) : FaultsIn tokens (finish anchor n) := by
  cases anchor with
  | none => exact .pure n
  | some name => exact .bind (.modify fun _ => List.Subset.refl _) fun _ => .pure n

theorem faultsIn_emptyNode (anchor tag : Option Text) :
    FaultsIn tokens (emptyNode anchor tag) := by
  rw [emptyNode]
  exact .guarded .fail fun _ => .bind (faultsIn_declare anchor) fun _ => faultsIn_finish anchor _

/-! ## Nodes -/

/-- What holds of all parts of the grammar of nodes, as they call each other. -/
structure NodeFaults (tokens : List Token) (fuel : Nat) : Prop where
  node : ∀ place, FaultsIn tokens (node place fuel)
  nodeBefore : ∀ place ends, FaultsIn tokens (nodeBefore place ends fuel)
  blockItems : FaultsIn tokens (blockItems fuel)
  indentlessItems : FaultsIn tokens (indentlessItems fuel)
  blockEntries : FaultsIn tokens (blockEntries fuel)
  optionalValue : ∀ place ends, FaultsIn tokens (optionalValue place ends fuel)
  flowItems : ∀ first, FaultsIn tokens (flowItems first fuel)
  flowEntries : ∀ first, FaultsIn tokens (flowEntries first fuel)

namespace NodeFaults

variable {fuel : Nat}

/-- A node with content of its own, after its first token. -/
theorem finished {p : Parser α} (hp : FaultsIn tokens p) (anchor : Option Text) (f : α → Node) :
    FaultsIn tokens (do declare anchor; finish anchor (f (← p))) :=
  .bind (faultsIn_declare anchor) fun _ => .bind hp fun a => faultsIn_finish anchor (f a)

theorem node_succ (h : NodeFaults tokens fuel) (place : Place) :
    FaultsIn tokens (Parser.node place (fuel + 1)) := by
  rw [Parser.node]
  refine .bind faultsIn_peek fun token => ?_
  dsimp only
  split
  · exact .bind faultsIn_advance fun _ => .bind .get fun _ => .guarded .fail fun _ => .pure _
  · refine .bind faultsIn_properties fun p => .bind (faultsIn_mapM_resolveTag p.2) fun tag =>
      .bind faultsIn_peek fun token => ?_
    have hempty : FaultsIn tokens (emptyNode p.1 tag) := faultsIn_emptyNode p.1 tag
    split
    · split
      · exact finished h.indentlessItems p.1 _
      · exact hempty
    · exact .bind faultsIn_advance fun _ => .bind (faultsIn_declare p.1) fun _ =>
        faultsIn_finish p.1 _
    · exact .bind faultsIn_advance fun _ => finished (h.flowItems true) p.1 _
    · exact .bind faultsIn_advance fun _ => finished (h.flowEntries true) p.1 _
    · split
      · exact .bind faultsIn_advance fun _ => finished h.blockItems p.1 _
      · exact hempty
    · split
      · exact .bind faultsIn_advance fun _ => finished h.blockEntries p.1 _
      · exact hempty
    · exact hempty

theorem nodeBefore_succ (h : NodeFaults tokens fuel) (place : Place) (ends : List Token) :
    FaultsIn tokens (Parser.nodeBefore place ends (fuel + 1)) := by
  rw [Parser.nodeBefore]
  refine .bind (faultsIn_at? ends) fun _ => ?_
  split
  · exact .pure _
  · exact h.node place

theorem blockItems_succ (h : NodeFaults tokens fuel) :
    FaultsIn tokens (Parser.blockItems (fuel + 1)) := by
  rw [Parser.blockItems]
  refine .bind (faultsIn_accept _) fun _ => ?_
  split
  · exact .bind (h.nodeBefore _ _) fun _ => .bind h.blockItems fun _ => .pure _
  · exact .bind (faultsIn_expect _) fun _ => .pure _

theorem indentlessItems_succ (h : NodeFaults tokens fuel) :
    FaultsIn tokens (Parser.indentlessItems (fuel + 1)) := by
  rw [Parser.indentlessItems]
  refine .bind (faultsIn_accept _) fun _ => ?_
  split
  · exact .bind (h.nodeBefore _ _) fun _ => .bind h.indentlessItems fun _ => .pure _
  · exact .pure _

theorem blockEntries_succ (h : NodeFaults tokens fuel) :
    FaultsIn tokens (Parser.blockEntries (fuel + 1)) := by
  rw [Parser.blockEntries]
  refine .bind (faultsIn_accept _) fun _ => ?_
  split
  · exact .bind (h.nodeBefore _ _) fun _ => .bind (h.optionalValue _ _) fun _ =>
      .bind h.blockEntries fun _ => .pure _
  · exact .bind (faultsIn_expect _) fun _ => .pure _

theorem optionalValue_succ (h : NodeFaults tokens fuel) (place : Place) (ends : List Token) :
    FaultsIn tokens (Parser.optionalValue place ends (fuel + 1)) := by
  rw [Parser.optionalValue]
  refine .bind (faultsIn_accept _) fun _ => ?_
  split
  · exact h.nodeBefore place ends
  · exact .pure _

theorem flowItems_succ (h : NodeFaults tokens fuel) (first : Bool) :
    FaultsIn tokens (Parser.flowItems first (fuel + 1)) := by
  rw [Parser.flowItems]
  refine .bind (faultsIn_accept _) fun _ => ?_
  split
  · exact .pure _
  · refine .guarded (faultsIn_expect _) fun _ => .bind (faultsIn_accept _) fun _ => ?_
    split
    · exact .bind (h.nodeBefore _ _) fun _ => .bind (h.optionalValue _ _) fun _ =>
        .bind (h.flowItems _) fun _ => .pure _
    · refine .bind (faultsIn_accept _) fun _ => ?_
      split
      · exact .pure _
      · exact .bind (h.node _) fun _ => .bind (h.flowItems _) fun _ => .pure _

theorem flowEntries_succ (h : NodeFaults tokens fuel) (first : Bool) :
    FaultsIn tokens (Parser.flowEntries first (fuel + 1)) := by
  rw [Parser.flowEntries]
  refine .bind (faultsIn_accept _) fun _ => ?_
  split
  · exact .pure _
  · refine .guarded (faultsIn_expect _) fun _ => .bind (faultsIn_accept _) fun _ => ?_
    split
    · exact .bind (h.nodeBefore _ _) fun _ => .bind (h.optionalValue _ _) fun _ =>
        .bind (h.flowEntries _) fun _ => .pure _
    · refine .bind (faultsIn_accept _) fun _ => ?_
      split
      · exact .pure _
      · exact .bind (h.node _) fun _ => .bind (h.flowEntries _) fun _ => .pure _

end NodeFaults

theorem nodeFaults (tokens : List Token) (fuel : Nat) : NodeFaults tokens fuel := by
  induction fuel with
  | zero =>
    exact ⟨fun _ => .fail, fun _ _ => .fail, .fail, .fail, .fail, fun _ _ => .fail, fun _ => .fail,
      fun _ => .fail⟩
  | succ fuel ih =>
    exact ⟨ih.node_succ, ih.nodeBefore_succ, ih.blockItems_succ, ih.indentlessItems_succ,
      ih.blockEntries_succ, ih.optionalValue_succ, ih.flowItems_succ, ih.flowEntries_succ⟩

/-! ## Documents -/

theorem faultsIn_directives (fuel : Nat) (versioned : Bool) (handles : List (Text × Text)) :
    FaultsIn tokens (directives fuel versioned handles) := by
  induction fuel generalizing versioned handles with
  | zero => exact .fail
  | succ fuel ih =>
    rw [directives]
    refine .bind faultsIn_peek fun _ => ?_
    split
    · exact .guarded .fail fun _ => .bind faultsIn_advance fun _ => ih _ _
    · exact .guarded .fail fun _ => .bind faultsIn_advance fun _ => ih _ _
    · exact .bind faultsIn_advance fun _ => ih _ _
    · exact .pure _

theorem faultsIn_content (fuel : Nat) : FaultsIn tokens (content fuel) := by
  rw [content]
  refine .bind faultsIn_peek fun _ => ?_
  split
  · exact .pure _
  · exact .pure _
  · exact .pure _
  · refine .bind (faultsIn_at? _) fun _ => ?_
    split
    · exact .pure _
    · exact (nodeFaults tokens fuel).node _

theorem faultsIn_explicitDocument (fuel : Nat) : FaultsIn tokens (explicitDocument fuel) :=
  .bind (faultsIn_directives _ _ _) fun _ => .bind (.modify fun _ => List.Subset.refl _) fun _ =>
    .bind (faultsIn_expect _) fun _ => faultsIn_content fuel

theorem faultsIn_streamEnd (fuel : Nat) : FaultsIn tokens (streamEnd fuel) := by
  induction fuel with
  | zero => exact .fail
  | succ fuel ih =>
    rw [streamEnd]
    refine .bind (faultsIn_accept _) fun _ => ?_
    split
    · exact ih
    · refine .bind (faultsIn_accept _) fun _ => ?_
      split
      · exact .bind (faultsIn_directives _ _ _) fun _ => .fail
      · exact .pure ()

theorem faultsIn_stream (fuel : Nat) : FaultsIn tokens (stream fuel) := by
  have hend (root : Node) : FaultsIn tokens (do streamEnd fuel; return some root) :=
    .bind (faultsIn_streamEnd fuel) fun _ => .pure _
  have hroot (explicit : Bool) : FaultsIn tokens
      (if explicit = true then do
        let root ← explicitDocument fuel
        streamEnd fuel
        return some root
      else do
        modify fun s => { s with handles := defaultHandles }
        let root ← node .block fuel
        streamEnd fuel
        return some root) := by
    split
    · exact .bind (faultsIn_explicitDocument fuel) hend
    · exact .bind (.modify fun _ => List.Subset.refl _) fun _ =>
        .bind ((nodeFaults tokens fuel).node _) hend
  rw [stream]
  refine .bind (faultsIn_accept _) fun _ => ?_
  split
  · exact .pure _
  · refine .bind faultsIn_peek fun _ => ?_
    dsimp only
    split <;> exact .bind (.pure _) hroot

end Parser

theorem Document.ofTokens?_eq_error {tokens : List Token} {fault : Fault}
    (h : Document.ofTokens? tokens = .error fault) :
    fault = .malformed ∨ .broken fault ∈ tokens := by
  have hstream : Parser.FaultsIn tokens (Parser.stream (4 * tokens.length + 4)) :=
    Parser.faultsIn_stream _
  have hfaults := hstream { tokens } (List.Subset.refl _)
  rw [Document.ofTokens?] at h
  change (Parser.stream (4 * tokens.length + 4) { tokens } >>= _) = _ at h
  cases hr : Parser.stream (4 * tokens.length + 4) { tokens } with
  | ok r =>
    rw [hr] at h
    cases h
  | error fault' =>
    rw [hr] at h hfaults
    cases h
    exact hfaults

end SearchTemplate.Yaml
