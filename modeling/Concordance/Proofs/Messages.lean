/-
# Concordance.Proofs.Messages -- what one node tells, another hears

The answers that nodes give each other about an index are values of records and
lists.  A decoder `ReadsBack` an encoding at a value if it gets that value from it;
scalars do, options and lists do if their values do (`ReadsBack.option`,
`ReadsBack.list`), and a record does field by field (`collect_fields`).

Counts travel as 64-bit words: a description reads back as long as its counts are
such words.  Positions travel in order and are sorted again, which changes nothing.

Since the text of a value is read as that value, the messages also survive as texts
(`TermAnswer.decode_render`, `DocumentAnswer.decode_render`).
-/
import Concordance.Proofs.Rendering
import Concordance.Wire.Index

namespace Concordance.Json

set_option autoImplicit false

/-- A decoder gets a value from its encoding. -/
def ReadsBack {α : Type} (decode : Decoder α) (encode : α → Json) (a : α) : Prop :=
  decode (reading (encode a)) = .ok a

/-! ## Scalars and lists -/

theorem ReadsBack.text (s : String) : ReadsBack decodeText Json.string s := rfl

theorem decodeNat_reading {bound n : Nat} (below : n < bound) :
    decodeNat bound (reading (.nat n)) = .ok n := if_pos below

theorem ReadsBack.long {n : Nat} (below : n < UInt64.size) : ReadsBack decodeLong Json.nat n :=
  decodeNat_reading below

theorem ReadsBack.word (w : UInt32) : ReadsBack decodeWord (fun w => .nat w.toNat) w := by
  rw [ReadsBack, decodeWord, decodeNat_reading w.toNat_lt]
  exact congrArg Except.ok UInt32.ofNat_toNat

theorem decodeOption_of_ne {α : Type} (decode : Decoder α) {r : Reading} (filled : r ≠ .null) :
    decodeOption decode r = (decode r).map some := by
  cases r with
  | null => exact absurd rfl filled
  | _ => rfl

/-- A value that is not written as null may be missing. -/
theorem ReadsBack.option {α : Type} {decode : Decoder α} {encode : α → Json} {o : Option α}
    (back : ∀ a ∈ o, ReadsBack decode encode a) (filled : ∀ a, reading (encode a) ≠ .null) :
    ReadsBack (decodeOption decode) (Json.option encode) o := by
  cases o with
  | none => rfl
  | some a =>
    have value : decode (reading (encode a)) = .ok a := back a rfl
    rw [ReadsBack, Json.option, decodeOption_of_ne decode (filled a), value]
    rfl

theorem readings_eq_map (items : List Json) : readings items = items.map reading := by
  induction items with
  | nil => rfl
  | cons item rest ih => rw [readings, ih, List.map_cons]

theorem ReadsBack.list {α : Type} {decode : Decoder α} {encode : α → Json} {items : List α}
    (back : ∀ a ∈ items, ReadsBack decode encode a) :
    ReadsBack (decodeList decode) (Json.list encode) items := by
  have values : ((items.map encode).map reading).mapM decode = .ok items := by
    induction items with
    | nil => rfl
    | cons a rest ih =>
      have value : decode (reading (encode a)) = .ok a := back a List.mem_cons_self
      rw [List.map_cons, List.map_cons, List.mapM_cons, value,
        ih (fun b mem => back b (List.mem_cons_of_mem _ mem))]
      rfl
  rw [ReadsBack, Json.list, reading, readings_eq_map, decodeList, values]
  rfl

/-! ## Records -/

/-- A field is found by its name. -/
theorem find?_field {fields : List Field} (distinct : (fields.map Field.name).Nodup) {f : Field}
    (listed : f ∈ fields) : fields.find? (fun g => g.name = f.name) = some f := by
  induction fields with
  | nil => exact absurd listed List.not_mem_nil
  | cons g rest ih =>
    obtain ⟨other, distinct⟩ := List.nodup_cons.1 distinct
    obtain rfl | listed := List.mem_cons.1 listed
    · exact List.find?_cons_of_pos (by simp)
    · have differs : g.name ≠ f.name := fun same => other (List.mem_map.2 ⟨f, listed, same.symm⟩)
      rw [List.find?_cons_of_neg (by simpa using differs), ih distinct listed]

/-- Members that are fields, each once and each of them good, are all collected. -/
theorem collectMembers_fields {fields : List Field} (distinct : (fields.map Field.name).Nodup)
    {members : List (Field × Reading)} (good : ∀ m ∈ members, m.1 ∈ fields ∧ m.1.check m.2 = .ok ())
    (once : (members.map (fun m => m.1.name)).Nodup) {found : List (String × Reading)}
    (fresh : ∀ m ∈ members, found.lookup m.1.name = none) :
    collectMembers fields found (members.map (fun m => (some m.1.name, m.2))) =
      .ok ((members.map (fun m => (m.1.name, m.2))).reverse ++ found) := by
  induction members generalizing found with
  | nil => rfl
  | cons m rest ih =>
    obtain ⟨⟨listed, passes⟩, goodRest⟩ := List.forall_mem_cons.1 good
    obtain ⟨freshHere, freshRest⟩ := List.forall_mem_cons.1 fresh
    obtain ⟨other, onceRest⟩ := List.nodup_cons.1 once
    have later : ∀ n ∈ rest, ((m.1.name, m.2) :: found).lookup n.1.name = none := by
      intro n mem
      have differs : (n.1.name == m.1.name) = false :=
        beq_false_of_ne (fun same => other (List.mem_map.2 ⟨n, mem, same⟩))
      rw [List.lookup_cons, differs, freshRest n mem]
    rw [List.map_cons, collectMembers, find?_field distinct listed]
    simp only [freshHere, Option.isSome_none, Bool.false_eq_true, if_false, passes]
    rw [ih goodRest onceRest later, List.map_cons, List.reverse_cons, List.append_assoc,
      List.singleton_append]

/-- **A record is collected** from an object with all its fields in order. -/
theorem collect_fields (members : List (Field × Reading))
    (once : (members.map (fun m => m.1.name)).Nodup)
    (good : ∀ m ∈ members, m.1.check m.2 = .ok ()) :
    collect (members.map Prod.fst) (.object (members.map (fun m => (some m.1.name, m.2))) true) =
      .ok (members.map (fun m => (m.1.name, m.2))).reverse := by
  have distinct : ((members.map Prod.fst).map Field.name).Nodup := by
    rw [List.map_map]
    exact once
  rw [collect, collectMembers_fields distinct
    (fun m mem => ⟨List.mem_map_of_mem mem, good m mem⟩) once (fun _ _ => rfl), List.append_nil]
  rfl

end Concordance.Json

namespace Concordance.Wire

open Data Json

/-! ## Entries and descriptions -/

theorem check_field {α : Type} (name : String) {decode : Decoder α} {r : Reading} {a : α}
    (value : decode r = .ok a) : (field name decode).check r = .ok () :=
  congrArg (Except.map fun _ => ()) value

theorem ReadsBack.positions (positions : Positions) :
    ReadsBack decodePositions encodePositions positions := by
  have words : decodeList decodeWord (reading (encodePositions positions)) = .ok positions.toList :=
    ReadsBack.list (fun w _ => ReadsBack.word w)
  have same : SortedSet.ofList positions.toList = positions :=
    SortedSet.ext_mem (fun _ => SortedSet.mem_ofList)
  rw [ReadsBack, decodePositions, words]
  exact congrArg Except.ok same

/-- **An entry reads back.** -/
theorem ReadsBack.entry (e : Entry) : ReadsBack decodeEntry encodeEntry e := by
  have positions : decodePositions (reading (encodePositions e.positions)) = .ok e.positions :=
    ReadsBack.positions e.positions
  have found : collect [field "subject" decodeText, field "uri" decodeText,
      trailingField "positions" decodePositions] (reading (encodeEntry e)) =
      .ok [("positions", reading (encodePositions e.positions)), ("uri", .text (some e.uri)),
        ("subject", .text (some e.subject))] :=
    collect_fields [(field "subject" decodeText, .text (some e.subject)),
        (field "uri" decodeText, .text (some e.uri)),
        (trailingField "positions" decodePositions, reading (encodePositions e.positions))]
      (by simp [field, trailingField]) (by
        simp only [List.forall_mem_cons]
        exact ⟨rfl, rfl, check_field "positions" positions, nofun⟩)
  unfold ReadsBack decodeEntry
  rw [found]
  simp [required, List.lookup, decodeText, positions, bind, Except.bind, pure, Except.pure]

/-- The counts of a description are 64-bit words. -/
def CountsFit (d : Description) : Prop := d.wordCount < UInt64.size ∧ d.uniqueWords < UInt64.size

/-- **A description reads back**, if its counts are 64-bit words. -/
theorem ReadsBack.description {d : Description} (fit : CountsFit d) :
    ReadsBack decodeDescription encodeDescription d := by
  have title : decodeOption decodeText (reading (Json.option Json.string d.title)) = .ok d.title :=
    ReadsBack.option (fun t _ => ReadsBack.text t) (fun _ => nofun)
  have words : decodeLong (reading (.nat d.wordCount)) = .ok d.wordCount := ReadsBack.long fit.1
  have distinct : decodeLong (reading (.nat d.uniqueWords)) = .ok d.uniqueWords :=
    ReadsBack.long fit.2
  have found : collect [field "uri" decodeText, field "title" (decodeOption decodeText),
      field "word_count" decodeLong, field "unique_words" decodeLong]
      (reading (encodeDescription d)) =
      .ok [("unique_words", reading (.nat d.uniqueWords)), ("word_count", reading (.nat d.wordCount)),
        ("title", reading (Json.option Json.string d.title)), ("uri", .text (some d.uri))] :=
    collect_fields [(field "uri" decodeText, .text (some d.uri)),
        (field "title" (decodeOption decodeText), reading (Json.option Json.string d.title)),
        (field "word_count" decodeLong, reading (.nat d.wordCount)),
        (field "unique_words" decodeLong, reading (.nat d.uniqueWords))]
      (by simp [field]) (by
        simp only [List.forall_mem_cons]
        exact ⟨rfl, check_field _ title, check_field _ words, check_field _ distinct, nofun⟩)
  unfold ReadsBack decodeDescription
  rw [found]
  simp [required, Json.optional, List.lookup, decodeText, title, words, distinct, bind, Except.bind, pure,
    Except.pure]

/-! ## Messages -/

/-- **The entries of a word read back.** -/
theorem ReadsBack.termAnswer (m : TermAnswer) : ReadsBack TermAnswer.decode TermAnswer.encode m := by
  have entries : decodeList decodeEntry (reading (.list encodeEntry m.entries)) = .ok m.entries :=
    ReadsBack.list (fun e _ => ReadsBack.entry e)
  have found : collect [field "term" decodeText, field "entries" (decodeList decodeEntry)]
      (reading m.encode) =
      .ok [("entries", reading (.list encodeEntry m.entries)), ("term", .text (some m.term))] :=
    collect_fields [(field "term" decodeText, .text (some m.term)),
        (field "entries" (decodeList decodeEntry), reading (.list encodeEntry m.entries))]
      (by simp [field]) (by
        simp only [List.forall_mem_cons]
        exact ⟨rfl, check_field _ entries, nofun⟩)
  unfold ReadsBack TermAnswer.decode
  rw [found]
  simp [required, List.lookup, decodeText, entries, bind, Except.bind, pure, Except.pure]

/-- **The description of a document reads back**, whether there is one or not. -/
theorem ReadsBack.documentAnswer {m : DocumentAnswer} (fit : ∀ d ∈ m.entry, CountsFit d) :
    ReadsBack DocumentAnswer.decode DocumentAnswer.encode m := by
  have entry : decodeOption decodeDescription (reading (Json.option encodeDescription m.entry)) =
      .ok m.entry :=
    ReadsBack.option (fun d mem => ReadsBack.description (fit d mem)) (fun _ => nofun)
  have found : collect [field "entry" (decodeOption decodeDescription)] (reading m.encode) =
      .ok [("entry", reading (Json.option encodeDescription m.entry))] :=
    collect_fields [(field "entry" (decodeOption decodeDescription),
        reading (Json.option encodeDescription m.entry))]
      (by simp [field]) (by
        simp only [List.forall_mem_cons]
        exact ⟨check_field _ entry, nofun⟩)
  unfold ReadsBack DocumentAnswer.decode
  rw [found]
  simp [Json.optional, List.lookup, entry, bind, Except.bind, pure, Except.pure]

/-! ## Messages as texts -/

theorem fits_positions (positions : Positions) : (encodePositions positions).Fits :=
  allFit_map (fun w _ => Nat.lt_trans w.toNat_lt (by decide))

theorem fits_entries (entries : List Entry) : (Json.list encodeEntry entries).Fits :=
  allFit_map (fun e _ => ⟨trivial, trivial, fits_positions e.positions, trivial⟩)

theorem fits_description {d : Description} (fit : CountsFit d) : (encodeDescription d).Fits := by
  refine ⟨trivial, ?_, fit.1, fit.2, trivial⟩
  cases d.title <;> trivial

/-- **The entries of a word are heard as they were told.** -/
theorem TermAnswer.decode_render (m : TermAnswer) :
    TermAnswer.decode (readWhole m.encode.render) = .ok m := by
  have fits : m.encode.Fits := ⟨trivial, fits_entries m.entries, trivial⟩
  rw [readWhole_render fits]
  exact ReadsBack.termAnswer m

/-- **The description of a document is heard as it was told**, if its counts are 64-bit words. -/
theorem DocumentAnswer.decode_render {m : DocumentAnswer} (fit : ∀ d ∈ m.entry, CountsFit d) :
    DocumentAnswer.decode (readWhole m.encode.render) = .ok m := by
  have fits : m.encode.Fits := by
    refine ⟨?_, trivial⟩
    cases known : m.entry with
    | none => trivial
    | some d => exact fits_description (fit d known)
  rw [readWhole_render fits]
  exact ReadsBack.documentAnswer fit

end Concordance.Wire
