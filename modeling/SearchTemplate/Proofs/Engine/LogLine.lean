import Mathlib.Algebra.Group.Int.Defs
import SearchTemplate.Engine.Log
import SearchTemplate.Proofs.Json.Limits
import SearchTemplate.Proofs.Json.RoundTrip

/-!
# Log lines

A logger that takes a level writes a line exactly for the fields that fit (`Json.Fits`). The line
is read back as what was logged, and two lines are equal only where an event of one name was logged
with the same fields (`Log.write_canonical`). The fields that the engine reports are of this kind
(`Event.loggable`) and fit as long as no number in them is too long (`Event.write_eq`).
-/

namespace SearchTemplate

namespace Log

/-- Fields that are logged exactly, next to the name of an event. -/
structure Loggable (fields : List (Text × Json)) : Prop where
  exact : Json.Exact (.obj fields)
  eventKey : eventKey ∉ fields.map Prod.fst

variable {event event' : Text} {fields fields' : List (Text × Json)}

theorem Loggable.payload (h : Loggable fields) (event : Text) : (payload event fields).Exact := by
  obtain ⟨hnodup, hvalues⟩ := Json.exact_obj_iff.mp h.exact
  exact .obj (List.nodup_cons.mpr ⟨h.eventKey, hnodup⟩)
    (List.forall_mem_cons.mpr ⟨.str event, hvalues⟩)

theorem same_payload_iff (h : Loggable fields) (h' : Loggable fields') :
    (payload event' fields').Same (payload event fields) ↔
      event' = event ∧ Json.Same (.obj fields') (.obj fields) := by
  rw [payload, payload, Json.same_obj_cons_iff h'.eventKey h.eventKey, Json.same_str_iff]

theorem line_eq_iff (h : Loggable fields) (h' : Loggable fields') :
    line event' fields' = line event fields ↔
      event' = event ∧ Json.Same (.obj fields') (.obj fields) := by
  rw [← same_payload_iff h h', ← Json.sorted_eq_iff (h'.payload event') (h.payload event)]
  constructor
  · exact (h'.payload event').sorted.print_inj (h.payload event).sorted
  · exact congrArg Json.print

theorem read_line (event : Text) (h : Loggable fields) :
    Json.read (line event fields) = some (payload event fields).sorted :=
  (h.payload event).sorted.read_print

/-! ## Writing -/

variable {room : Nat} {threshold level : Int}

theorem write_of_fits (haccepts : accepts threshold level = true)
    (hfits : (payload event fields).Fits room) :
    write room threshold level event fields = .ok [line event fields] := by
  rw [write, if_pos haccepts, Json.write_of_fits (Json.fits_sorted_iff.mpr hfits)]
  rfl

theorem write_of_error {fault : Json.WriteFault} (haccepts : accepts threshold level = true)
    (h : (payload event fields).sorted.write room = .error fault) :
    write room threshold level event fields = .error fault := by
  rw [write, if_pos haccepts, h]
  rfl

theorem write_of_not_fits (haccepts : accepts threshold level = true)
    (hfits : ¬(payload event fields).Fits room) :
    ∃ fault, write room threshold level event fields = .error fault ∧
      fault.Reason room (payload event fields) := by
  obtain ⟨fault, hfault, hreason⟩ := Json.write_of_not_fits (mt Json.fits_sorted_iff.mp hfits)
  exact ⟨fault, write_of_error haccepts hfault, Json.reason_sorted_iff.mp hreason⟩

/-- The lines of fields that fit are written for no other event or fields. -/
theorem write_eq_line_iff (haccepts : accepts threshold level = true)
    (h : Loggable fields) (hfits : (payload event fields).Fits room) (h' : Loggable fields') :
    write room threshold level event' fields' = .ok [line event fields] ↔
      event' = event ∧ Json.Same (.obj fields') (.obj fields) := by
  rw [← line_eq_iff h h']
  by_cases hfits' : (payload event' fields').Fits room
  · rw [write_of_fits haccepts hfits', Except.ok.injEq, List.singleton_inj]
  · -- Fields that do not fit have another line, as those with the same line fit as well.
    obtain ⟨fault, hfault, -⟩ := write_of_not_fits haccepts hfits'
    have hline : line event' fields' ≠ line event fields := fun heq =>
      have hsame := (same_payload_iff h h').mpr ((line_eq_iff h h').mp heq)
      have hsorted := hsame.sorted_eq (h'.payload event') (h.payload event)
      hfits' (Json.fits_sorted_iff.mp (hsorted ▸ Json.fits_sorted_iff.mpr hfits))
    rw [hfault]
    exact iff_of_false nofun hline

/-- The line of an event with fields that fit holds no control character, is read as the event with
its fields, and is written for no other event or fields, where the order of fields does not count.
Other fields are not written, as an integer in them is too long or they lie too deep. -/
theorem write_canonical (haccepts : accepts threshold level = true) (room : Nat) (event : Text)
    (h : Loggable fields) :
    ((payload event fields).Fits room →
      ∃ line, write room threshold level event fields = .ok [line] ∧
        (∀ s ∈ line, 0x20 ≤ s.code) ∧
        (∃ v, Json.read line = some v ∧ v.Same (payload event fields)) ∧
        ∀ event' fields', Loggable fields' →
          (write room threshold level event' fields' = .ok [line] ↔
            event' = event ∧ Json.Same (.obj fields') (.obj fields))) ∧
    (¬(payload event fields).Fits room →
      ∃ fault, write room threshold level event fields = .error fault ∧
        fault.Reason room (payload event fields)) := by
  have hexact := h.payload event
  refine ⟨fun hfits => ?_, write_of_not_fits haccepts⟩
  exact ⟨line event fields, write_of_fits haccepts hfits, hexact.sorted.noControl_print,
    ⟨_, read_line event h, Json.same_sorted hexact⟩,
    fun event' fields' h' => write_eq_line_iff haccepts h hfits h'⟩

/-- A text that looks like a log line itself, and fields at two depths. -/
def sampleFields (flag : Json) : List (Text × Json) :=
  [(.ofString "url", Json.string "a\n\x7b\"event\":\"\\\"\x7d"),
    (.ofString "at", Json.ofFields [("n", .int (-70)), ("", .arr [Json.ofFields [], flag, .null])])]

/-- The fields in the opposite order, at both depths. -/
def reversedFields (flag : Json) : List (Text × Json) :=
  [(.ofString "at", Json.ofFields [("", .arr [Json.ofFields [], flag, .null]), ("n", .int (-70))]),
    (.ofString "url", Json.string "a\n\x7b\"event\":\"\\\"\x7d")]

theorem loggable_sampleFields {flag : Json} (h : flag.Exact) : Loggable (sampleFields flag) where
  exact := by simp [sampleFields, Json.string, Json.ofFields, Text.ofString_inj, h]
  eventKey := by simp [sampleFields, eventKey, Text.ofString_inj]

theorem loggable_reversedFields {flag : Json} (h : flag.Exact) : Loggable (reversedFields flag) where
  exact := by simp [reversedFields, Json.string, Json.ofFields, Text.ofString_inj, h]
  eventKey := by simp [reversedFields, eventKey, Text.ofString_inj]

/-- The line that the fields make. -/
def sampleLine : Text :=
  .ofString ("\x7b\"at\":\x7b\"\":[\x7b\x7d,true,null],\"n\":-70\x7d,\"event\":\"start\"," ++
    "\"url\":\"a\\n\x7b\\\"event\\\":\\\"\\\\\\\"\x7d\"\x7d")

/-- The least number with too many digits. -/
def tooLongFields : List (Text × Json) := [(.ofString "n", .int (10 ^ Number.maxDigits))]

theorem loggable_tooLongFields : Loggable tooLongFields where
  exact := by simp [tooLongFields]
  eventKey := by simp [tooLongFields, eventKey, Text.ofString_inj]

theorem not_fits_tooLongFields (room : Nat) (event : Text) :
    ¬(payload event tooLongFields).Fits room := by
  rintro ⟨hshort, -⟩
  simp [payload, tooLongFields, Int.natAbs_pow] at hshort

/-- Arrays that are one too many where there is room for an object and `room` more. -/
def nestedFields (room : Nat) : List (Text × Json) := [(.ofString "n", Json.nested room)]

theorem loggable_nestedFields (room : Nat) : Loggable (nestedFields room) where
  exact := by simp [nestedFields, Json.exact_nested]
  eventKey := by simp [nestedFields, eventKey, Text.ofString_inj]

/-- The order of fields makes no difference, but `true` and the text of it do. The sample has four
objects and arrays inside of one another, that of the event included. -/
theorem write_canonical_sampleFields :
    accepts 10 10 = true ∧ Loggable (sampleFields (.bool true)) ∧
      (payload (.ofString "start") (sampleFields (.bool true))).Fits 4 ∧
      Loggable (reversedFields (.bool true)) ∧ Loggable (sampleFields (Json.string "true")) ∧
      write 4 10 10 (.ofString "start") (sampleFields (.bool true)) = .ok [sampleLine] ∧
      (∀ s ∈ sampleLine, 0x20 ≤ s.code) ∧
      (∃ v, Json.read sampleLine = some v ∧
        v.Same (payload (.ofString "start") (sampleFields (.bool true)))) ∧
      Json.Same (.obj (reversedFields (.bool true))) (.obj (sampleFields (.bool true))) ∧
      ¬Json.Same (.obj (sampleFields (Json.string "true"))) (.obj (sampleFields (.bool true))) ∧
      Loggable tooLongFields ∧ ¬(payload (.ofString "start") tooLongFields).Fits 4 ∧
      ∃ fault, write 4 10 10 (.ofString "start") tooLongFields = .error fault ∧
        fault.Reason 4 (payload (.ofString "start") tooLongFields) := by
  have haccepts : accepts 10 10 = true := by decide
  have hsample := loggable_sampleFields (.bool true)
  have hfits : (payload (.ofString "start") (sampleFields (.bool true))).Fits 4 :=
    Json.writeFault?_eq_none_iff.mp rfl
  have hreversed := loggable_reversedFields (.bool true)
  have hchanged := loggable_sampleFields (.str (.ofString "true"))
  have htooLong := not_fits_tooLongFields 4 (.ofString "start")
  obtain ⟨line, hwrite, hcontrol, hread, hsame⟩ :=
    (write_canonical haccepts 4 (.ofString "start") hsample).1 hfits
  have hline : write 4 10 10 (.ofString "start") (sampleFields (.bool true))
      = .ok [sampleLine] := rfl
  obtain rfl : sampleLine = line :=
    List.singleton_inj.mp (Except.ok.inj (hline.symm.trans hwrite))
  refine ⟨haccepts, hsample, hfits, hreversed, hchanged, hline, hcontrol, hread, ?_, fun h => ?_,
    loggable_tooLongFields, htooLong,
    (write_canonical haccepts 4 (.ofString "start") loggable_tooLongFields).2 htooLong⟩
  · exact ((hsame (.ofString "start") _ hreversed).mp rfl).2
  · have hequal : write 4 10 10 (.ofString "start") (sampleFields (Json.string "true"))
        = .ok [sampleLine] := (hsame (.ofString "start") _ hchanged).mpr ⟨rfl, h⟩
    revert hequal
    decide

/-- No line is written for a number with too many digits, for arrays that leave no room, and by a
logger that does not take the level. -/
theorem not_written_tooLongFields :
    (Loggable tooLongFields ∧
      write 1000 10 10 (.ofString "ev") tooLongFields = .error .tooLong) ∧
    (∀ room, Loggable (nestedFields room) ∧
      write (room + 1) 10 10 (.ofString "ev") (nestedFields room) = .error .tooDeep) ∧
    Loggable [] ∧ write 1000 50 10 (.ofString "ev") [] = .ok [] := by
  have haccepts : accepts 10 10 = true := by decide
  refine ⟨⟨loggable_tooLongFields, write_of_error haccepts (Json.write_of_fault ?_)⟩,
    fun room => ⟨loggable_nestedFields room, write_of_error haccepts (Json.write_of_fault ?_)⟩,
    ⟨by simp, by simp⟩, rfl⟩
  · have hsorted : (payload (.ofString "ev") tooLongFields).sorted
        = payload (.ofString "ev") tooLongFields := rfl
    have hlong : Number.isTooLong (10 ^ Number.maxDigits) = true :=
      Number.isTooLong_iff.mpr (by simp [Int.natAbs_pow])
    rw [hsorted, payload, tooLongFields]
    simp only [Json.writeFault?, Json.fieldsFault?, hlong, if_true, Option.none_or, Option.some_or]
  · have hsorted : (payload (.ofString "ev") (nestedFields room)).sorted
        = payload (.ofString "ev") [(.ofString "n", (Json.nested room).sorted)] := rfl
    rw [hsorted, Json.sorted_nested, payload]
    simp only [Json.writeFault?, Json.fieldsFault?, Json.writeFault?_nested, Option.none_or,
      Option.some_or]

end Log

namespace Event

/-- The keys of an event differ, and no key is that of its name. -/
theorem loggable (e : Event) :
    Log.Loggable (e.fields.map fun f => (Text.ofString f.1, f.2)) where
  exact := by cases e <;> simp [fields, Json.string, Text.ofString_inj]
  eventKey := by cases e <;> simp [fields, Log.eventKey, Text.ofString_inj]

theorem str_or_int_of_mem_fields (e : Event) {f : String × Json} (h : f ∈ e.fields) :
    (∃ t, f.2 = .str t) ∨ ∃ n, f.2 = .int n := by
  revert f
  cases e <;> simp [fields, Json.string]

/-- The line of an event whose numbers are short is written. -/
theorem write_eq {threshold level : Int} (haccepts : Log.accepts threshold level = true)
    (room : Nat) (e : Event)
    (hshort : ∀ f ∈ e.fields, ∀ n, f.2 = .int n → n.natAbs < 10 ^ Number.maxDigits) :
    Log.write (room + 1) threshold level (.ofString e.name)
      (e.fields.map fun f => (Text.ofString f.1, f.2)) = .ok [e.line] := by
  have hvalue : ∀ f ∈ e.fields, f.2.Fits room := by
    intro f hf
    rcases e.str_or_int_of_mem_fields hf with ⟨t, ht⟩ | ⟨n, hn⟩
    · exact ht ▸ ⟨.str t, Nat.zero_le room⟩
    · exact hn ▸ ⟨.int (hshort f hf n hn), Nat.zero_le room⟩
  refine Log.write_of_fits haccepts (Json.fits_obj_succ_iff.mpr (List.forall_mem_cons.mpr ⟨?_, ?_⟩))
  · exact ⟨.str _, Nat.zero_le room⟩
  · exact List.forall_mem_map.mpr hvalue

/-- The line of an event is read as its name and its fields. -/
theorem read_line (e : Event) : ∃ v, Json.read e.line = some v ∧
    v.Same (Log.payload (.ofString e.name) (e.fields.map fun f => (Text.ofString f.1, f.2))) :=
  ⟨_, Log.read_line _ e.loggable, Json.same_sorted (e.loggable.payload _)⟩

end Event

end SearchTemplate
