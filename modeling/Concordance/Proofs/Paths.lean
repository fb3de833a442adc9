/-
# Concordance.Proofs.Paths -- what becomes of the path of an address

An address is read through many hands: blanks at its ends go, tabs and line breaks
go, hash and question mark cut it, slashes of either kind divide its path, and dots
lead nowhere or up.  A segment that meets none of them (`IsSegment`) comes out as it
went in, percent-encoded; so does a path of such segments (`readPath_segments`,
`Url.withPath_segments`).

Words are such segments, and so is what a word became in the path of another address
(`IsSegment.word`, `IsSegment.encoded`): there it may begin with a percent sign, and
the byte behind that sign is never the one of a dot.
-/
import Concordance.Net.Url
import Concordance.Proofs.Encodings
import Concordance.Text.Word

namespace Concordance.Net

open Text

set_option autoImplicit false

/-! ## Plain characters -/

/-- Whether a character is neither left out of an address nor cuts it, wherever in front of a query
it stands. -/
def isPlain (c : Char) : Bool := 32 < c.toNat && c ≠ '/' && c ≠ '\\' && c ≠ '?' && c ≠ '#'

theorem isPlain_iff {c : Char} :
    isPlain c = true ↔ 32 < c.toNat ∧ c ≠ '/' ∧ c ≠ '\\' ∧ c ≠ '?' ∧ c ≠ '#' := by
  simp [isPlain, and_assoc]

theorem isSlash_of_isPlain {c : Char} (plain : isPlain c = true) (kind : SchemeKind) :
    kind.isSlash c = false := by
  obtain ⟨-, slash, backslash, -⟩ := isPlain_iff.1 plain
  simp [SchemeKind.isSlash, slash, backslash]

theorem isBreak_of_visible {c : Char} (visible : 32 < c.toNat) : isBreak c = false := by
  have differs : c ≠ '\t' ∧ c ≠ '\n' ∧ c ≠ '\r' := by
    refine ⟨?_, ?_, ?_⟩ <;> (rintro rfl; exact absurd visible (by decide))
  simp [isBreak, differs]

theorem isPlain_percentAlphabet : ∀ c ∈ percentAlphabet, isPlain c = true := by
  simp [percentAlphabet, isPlain]

/-- Encoding brings nothing into a text that would be left out or cut an address. -/
theorem isPlain_percentEncode {encode : Char → Bool} {s : List Char}
    (plain : ∀ c ∈ s, isPlain c = true) : ∀ c ∈ percentEncode encode s, isPlain c = true := by
  intro c mem
  obtain ⟨own, -⟩ | escaped := mem_percentEncode mem
  · exact plain c own
  · exact isPlain_percentAlphabet c escaped

theorem withoutBreaks_of_visible {s : List Char} (visible : ∀ c ∈ s, 32 < c.toNat) :
    withoutBreaks s = s :=
  List.filter_eq_self.2 (fun c mem => by rw [isBreak_of_visible (visible c mem)]; rfl)

/-- A text without blanks and control characters is all of an address. -/
theorem addressChars_of_visible {text : String} (visible : ∀ c ∈ text.toList, 32 < c.toNat) :
    withoutBreaks (addressChars text) = text.toList := by
  have whole : addressChars text = text.toList :=
    dropEnds_of_forall (fun c mem => decide_eq_false (Nat.not_le.2 (visible c mem)))
  rw [whole, withoutBreaks_of_visible visible]

/-- What neither a hash nor a question mark cuts has no query and no fragment. -/
theorem splitTail_of_plain {s : List Char} (noHash : '#' ∉ s) (noQuery : '?' ∉ s) :
    splitTail s = (s, none, none) := by
  simp only [splitTail, splitOnce_of_notMem noHash, splitOnce_of_notMem noQuery]

/-! ## Segments -/

/-- A text that stands for itself as a segment of a path. -/
structure IsSegment (s : List Char) : Prop where
  /-- No character of it is left out or cuts the address. -/
  plain : ∀ c ∈ s, isPlain c = true
  /-- It is not the dot that leads nowhere. -/
  moves : plainDots s ≠ ['.']
  /-- It is not the two dots that lead up. -/
  descends : plainDots s ≠ ['.', '.']

theorem plainDots_cons_of_ne {c : Char} (plain : c ≠ '%') (rest : List Char) :
    plainDots (c :: rest) = c :: plainDots rest := by
  rw [plainDots]
  · exact fun _ percent => absurd percent plain
  · exact fun _ percent => absurd percent plain

theorem plainDots_percent_of_ne {digit : Char} (high : digit ≠ '2') (rest : List Char) :
    plainDots ('%' :: digit :: rest) = '%' :: plainDots (digit :: rest) := by
  rw [plainDots]
  · exact fun _ _ two => absurd (List.cons.inj two).1 high
  · exact fun _ _ two => absurd (List.cons.inj two).1 high

/-- Dots alone begin with a dot. -/
theorem IsSegment.of_head {s : List Char} (plain : ∀ c ∈ s, isPlain c = true)
    (head : (plainDots s).head? ≠ some '.') : IsSegment s where
  plain
  moves := fun dots => head (by rw [dots]; rfl)
  descends := fun dots => head (by rw [dots]; rfl)

/-- The characters of query words, as far as addresses are concerned. -/
theorem isQueryChar_plain {c : Char} (inWord : isQueryChar c = true) :
    isPlain c = true ∧ c ≠ '.' ∧ c ≠ '%' := by
  by_cases ascii : c.toNat < 128
  · have every : ∀ n < 128, isQueryChar (Char.ofNat n) = true →
        isPlain (Char.ofNat n) = true ∧ Char.ofNat n ≠ '.' ∧ Char.ofNat n ≠ '%' := by decide
    exact ascii_forall (P := fun c => isQueryChar c = true → isPlain c = true ∧ c ≠ '.' ∧ c ≠ '%')
      every ascii inWord
  · have beyond : ∀ d : Char, d.toNat < 128 → c ≠ d := fun d below same => ascii (same ▸ below)
    refine ⟨isPlain_iff.2 ⟨by omega, ?_, ?_, ?_, ?_⟩, ?_, ?_⟩ <;> exact beyond _ (by decide)

theorem encodedInPath_of_isQueryChar {c : Char} (ascii : c.toNat < 128)
    (inWord : isQueryChar c = true) : encodedInPath c = false := by
  have every : ∀ n < 128, isQueryChar (Char.ofNat n) = true →
      encodedInPath (Char.ofNat n) = false := by decide
  exact ascii_forall (P := fun c => isQueryChar c = true → encodedInPath c = false) every ascii inWord

/-- The first byte of a character that is not ASCII is none of ASCII. -/
theorem utf8EncodeChar_cons {c : Char} (beyond : 128 ≤ c.toNat) :
    ∃ b rest, String.utf8EncodeChar c = b :: rest ∧ 128 ≤ b.toNat := by
  rcases encoded : String.utf8EncodeChar c with _ | ⟨b, rest⟩
  · exact absurd encoded String.utf8EncodeChar_ne_nil
  · exact ⟨b, rest, rfl, le_of_mem_utf8EncodeChar beyond (encoded ▸ List.mem_cons_self)⟩

/-- The first digit of a byte that is none of ASCII. -/
theorem upperHexDigit_high : ∀ n < 16, 8 ≤ n → upperHexDigit n ≠ '2' := by decide

/-- **A word is a segment.** -/
theorem IsSegment.word {w : String} (word : isWord w = true) : IsSegment w.toList := by
  obtain ⟨-, inWord⟩ := isWord_iff.1 word
  refine .of_head (fun c mem => (isQueryChar_plain (inWord c mem)).1) ?_
  generalize w.toList = s at inWord
  cases s with
  | nil => simp [plainDots]
  | cons c rest =>
    obtain ⟨-, noDot, noPercent⟩ := isQueryChar_plain (inWord c List.mem_cons_self)
    rw [plainDots_cons_of_ne noPercent]
    exact fun dot => noDot (Option.some.inj dot)

/-- **A word that was percent-encoded is a segment** again. -/
theorem IsSegment.encoded {w : String} (word : isWord w = true) :
    IsSegment (percentEncode encodedInPath w.toList) := by
  obtain ⟨-, inWord⟩ := isWord_iff.1 word
  refine .of_head (isPlain_percentEncode (IsSegment.word word).plain) ?_
  generalize w.toList = s at inWord
  cases s with
  | nil => simp [percentEncode, plainDots]
  | cons c rest =>
    obtain ⟨-, noDot, noPercent⟩ := isQueryChar_plain (inWord c List.mem_cons_self)
    rw [percentEncode_cons, percentChar]
    split
    · rw [List.singleton_append, plainDots_cons_of_ne noPercent]
      exact fun dot => noDot (Option.some.inj dot)
    · rename_i notPlain
      have beyond : 128 ≤ c.toNat := by
        by_contra ascii
        have below := Nat.lt_of_not_le ascii
        simp [below, encodedInPath_of_isQueryChar below (inWord c List.mem_cons_self)] at notPlain
      obtain ⟨b, bytes, encoded, high⟩ := utf8EncodeChar_cons beyond
      have bound := b.toNat_lt
      rw [encoded, List.flatMap_cons, percentByte, List.cons_append, List.cons_append,
        List.cons_append, List.cons_append,
        plainDots_percent_of_ne (upperHexDigit_high _ (by omega) (by omega))]
      simp

/-! ## Paths of segments -/

/-- Slashes divide a path into its segments. -/
theorem splitOnP_segments {isSlash : Char → Bool} (slash : isSlash '/' = true) (first : List Char)
    (rest : List (List Char))
    (whole : ∀ segment ∈ first :: rest, ∀ c ∈ segment, isSlash c = false) :
    (first ++ rest.flatMap ('/' :: ·)).splitOnP isSlash = first :: rest := by
  induction rest generalizing first with
  | nil =>
    rw [List.flatMap_nil, List.append_nil,
      List.splitOnP_eq_singleton (whole first List.mem_cons_self)]
  | cons next rest ih =>
    rw [List.flatMap_cons, List.cons_append,
      List.splitOnP_append_cons_of_forall_mem (whole first List.mem_cons_self) _ slash,
      ih next (fun segment mem => whole segment (List.mem_cons_of_mem _ mem))]

/-- Segments that stand for themselves are put behind one another. -/
theorem followSegments_segments {segments : List (List Char)}
    (all : ∀ segment ∈ segments, IsSegment segment) (path : List (List Char)) :
    followSegments .web path segments = path ++ segments.map (percentEncode encodedInPath) := by
  induction segments generalizing path with
  | nil => rw [followSegments, List.map_nil, List.append_nil]
  | cons segment rest ih =>
    have here := all segment List.mem_cons_self
    have unbroken : withoutBreaks segment = segment :=
      withoutBreaks_of_visible (fun c mem => (isPlain_iff.1 (here.plain c mem)).1)
    have placed : placedSegments .web path segment = [percentEncode encodedInPath segment] := by
      simp [placedSegments, unbroken]
    rw [followSegments, unbroken]
    simp only [here.moves, here.descends, if_false]
    rw [ih (fun segment mem => all segment (List.mem_cons_of_mem _ mem)), placed, List.append_assoc,
      List.map_cons, List.singleton_append]

/-- The path of an address with these segments, percent-encoded. -/
def shownPath (segments : List (List Char)) : String :=
  String.ofList ((segments.map (percentEncode encodedInPath)).flatMap ('/' :: ·))

/-- **A path of segments is read as these segments**, percent-encoded. -/
theorem readPath_segments {segments : List (List Char)}
    (all : ∀ segment ∈ segments, IsSegment segment) (some : segments ≠ []) :
    readPath .web (segments.flatMap ('/' :: ·)) = shownPath segments := by
  have cut : (segments.flatMap ('/' :: ·)).splitOnP SchemeKind.web.isSlash = [] :: segments := by
    refine splitOnP_segments rfl [] segments (fun segment mem c inside => ?_)
    obtain rfl | mem := List.mem_cons.1 mem
    · exact absurd inside List.not_mem_nil
    · exact isSlash_of_isPlain ((all segment mem).plain c inside) .web
  obtain ⟨first, rest, rfl⟩ := List.exists_cons_of_ne_nil some
  rw [readPath, cut]
  simp only [followSegments_segments all, List.nil_append, shownPath]

/-- Slashes apart, a path of segments is plain. -/
theorem isPlain_of_mem_segments {segments : List (List Char)}
    (all : ∀ segment ∈ segments, ∀ c ∈ segment, isPlain c = true) {c : Char}
    (h : c ∈ segments.flatMap ('/' :: ·)) : c = '/' ∨ isPlain c = true := by
  obtain ⟨segment, mem, inside⟩ := List.mem_flatMap.1 h
  obtain slash | inside := List.mem_cons.1 inside
  · exact .inl slash
  · exact .inr (all segment mem c inside)

/-! ## Whole addresses -/

/-- What is plain, slashes apart, stays whole where an address is cleaned and cut. -/
theorem uncut {s : List Char} (plain : ∀ c ∈ s, c = '/' ∨ isPlain c = true) :
    (∀ c ∈ s, 32 < c.toNat) ∧ '#' ∉ s ∧ '?' ∉ s := by
  refine ⟨fun c mem => ?_, fun mem => ?_, fun mem => ?_⟩
  · obtain rfl | plain := plain c mem
    · decide
    · exact (isPlain_iff.1 plain).1
  · exact absurd (plain _ mem) (by decide)
  · exact absurd (plain _ mem) (by decide)

/-- **A path of segments on another machine** is the path of an address without query and
fragment. -/
theorem Url.withPath_segments {base : Url} (web : SchemeKind.ofName base.scheme = .web)
    {segments : List (List Char)} (all : ∀ segment ∈ segments, IsSegment segment)
    (some : segments ≠ []) {text : String} (joined : text.toList = segments.flatMap ('/' :: ·)) :
    base.withPath text =
      { base with path := shownPath segments, query := none, fragment := none } := by
  obtain ⟨visible, noHash, noQuery⟩ := uncut (fun _ mem =>
    isPlain_of_mem_segments (fun segment mem => (all segment mem).plain) mem)
  have chars : withoutBreaks (addressChars text) = segments.flatMap ('/' :: ·) := by
    rw [addressChars_of_visible (joined ▸ visible), joined]
  simp only [withPath, chars, splitTail_of_plain noHash noQuery, web, readPath_segments all some,
    Option.map_none]

/-- The scheme of the web is what stands before the first colon. -/
theorem splitScheme_http (rest : List Char) :
    splitScheme ('h' :: 't' :: 't' :: 'p' :: ':' :: rest) = some ("http", rest) := by
  rw [splitScheme]
  simp only [List.span_eq_takeWhile_dropWhile]
  rfl

/-- Between the scheme and the query of an address of the web stand two slashes, the machine, and
the path from the next slash on. -/
theorem readBody_web {machine path : List Char} (named : machine ≠ [])
    (plain : ∀ c ∈ machine, isPlain c = true) (slash : path.head? = some '/') (isLast : Bool) :
    readBody "http" .web isLast ('/' :: '/' :: (machine ++ path)) =
      (readAuthority "http" .web true machine).map
        (fun (host, port, _) => (host, port, readPath .web path)) := by
  obtain ⟨rest, rfl⟩ := List.head?_eq_some_iff.1 slash
  have within : ∀ c ∈ machine, (!SchemeKind.web.isSlash c) = true := fun c mem => by
    rw [isSlash_of_isPlain (plain c mem)]; rfl
  have start : ('/' :: '/' :: (machine ++ '/' :: rest)).dropWhile SchemeKind.web.isSlash =
      machine ++ '/' :: rest := by
    rw [List.dropWhile_cons_of_pos rfl, List.dropWhile_cons_of_pos rfl]
    obtain ⟨c, more, rfl⟩ := List.exists_cons_of_ne_nil named
    rw [List.cons_append, List.dropWhile_cons_of_neg]
    simpa using within c List.mem_cons_self
  rw [readBody, start, span_append within (by rintro c ⟨⟩; rfl)]
  dsimp only
  cases readAuthority "http" .web true machine <;> rfl

/-- **An address of a machine and a path of segments** is read as that path on whatever machine the
middle of it names. -/
theorem Url.ofString?_http {machine : String} (named : machine.toList ≠ [])
    (plain : ∀ c ∈ machine.toList, isPlain c = true) {segments : List (List Char)}
    (all : ∀ segment ∈ segments, IsSegment segment) (some : segments ≠ []) {path : String}
    (joined : path.toList = segments.flatMap ('/' :: ·)) :
    Url.ofString? ("http://" ++ machine ++ path) =
      (readAuthority "http" .web true machine.toList).map (fun (host, port, _) =>
        { scheme := "http", host, port, path := shownPath segments, query := none
          fragment := none }) := by
  have text : ("http://" ++ machine ++ path).toList =
      'h' :: 't' :: 't' :: 'p' :: ':' :: '/' :: '/' ::
        (machine.toList ++ segments.flatMap ('/' :: ·)) := by
    simp [joined]
  have behind : ∀ c ∈ machine.toList ++ segments.flatMap ('/' :: ·), c = '/' ∨ isPlain c = true := by
    intro c mem
    obtain mem | mem := List.mem_append.1 mem
    · exact .inr (plain c mem)
    · exact isPlain_of_mem_segments (fun segment mem => (all segment mem).plain) mem
  obtain ⟨visible, noHash, noQuery⟩ := uncut (s := '/' :: '/' :: _)
    (List.forall_mem_cons.2 ⟨.inl rfl, List.forall_mem_cons.2 ⟨.inl rfl, behind⟩⟩)
  have chars : withoutBreaks (addressChars ("http://" ++ machine ++ path)) =
      ("http://" ++ machine ++ path).toList := by
    apply addressChars_of_visible
    rw [text]
    simpa using visible
  have slash : (segments.flatMap ('/' :: ·)).head? = Option.some '/' := by
    obtain ⟨first, rest, rfl⟩ := List.exists_cons_of_ne_nil some
    rfl
  have kind : SchemeKind.ofName "http" = .web := by decide
  rw [Url.ofString?, chars, text, splitScheme_http]
  simp only [kind, splitTail_of_plain noHash noQuery, reduceCtorEq, if_false, Option.isNone_none,
    readBody_web named plain slash, readPath_segments all some, Option.map_none]
  cases readAuthority "http" .web true machine.toList <;> rfl

/-- However a text goes on behind `http:`, its front is kept where it is cleaned. -/
theorem addressChars_http (rest : String) :
    ∃ more, withoutBreaks (addressChars ("http:" ++ rest)) =
      'h' :: 't' :: 't' :: 'p' :: ':' :: more := by
  have text : ("http:" ++ rest).toList = ['h', 't', 't', 'p', ':'] ++ rest.toList := by simp
  have front : (['h', 't', 't', 'p', ':'] ++ rest.toList).dropWhile (fun c => decide (c.toNat ≤ 32)) =
      ['h', 't', 't', 'p', ':'] ++ rest.toList := List.dropWhile_cons_of_neg (by decide)
  have back : ['h', 't', 't', 'p', ':'].reverse.dropWhile (fun c => decide (c.toNat ≤ 32)) =
      ['h', 't', 't', 'p', ':'].reverse := by decide
  have trimmed : ∃ more, addressChars ("http:" ++ rest) = ['h', 't', 't', 'p', ':'] ++ more := by
    rw [addressChars, text, front, List.reverse_append, List.dropWhile_append]
    split
    · exact ⟨[], by rw [back, List.reverse_reverse, List.append_nil]⟩
    · exact ⟨_, by rw [List.reverse_append, List.reverse_reverse]⟩
  obtain ⟨more, trimmed⟩ := trimmed
  exact ⟨withoutBreaks more, by rw [trimmed, withoutBreaks, List.filter_append]; rfl⟩

/-- An address that begins with the scheme of the web is one of the web. -/
theorem Url.scheme_of_http {rest : String} {url : Url} (h : Url.ofString? ("http:" ++ rest) = .ok url) :
    url.scheme = "http" := by
  obtain ⟨more, chars⟩ := addressChars_http rest
  rw [Url.ofString?, chars, splitScheme_http] at h
  dsimp only at h
  generalize readBody _ _ _ _ = body at h
  cases body with
  | error e => exact nomatch h
  | ok parts =>
    cases h
    rfl

/-- The origin of an address of the web is one of the web. -/
theorem Url.scheme_of_origin {url base : Url} (web : url.scheme = "http")
    (h : url.origin? = .ok base) : base.scheme = "http" := by
  have kind : SchemeKind.ofName "http" = .web := by decide
  have colon : "http" ++ ":" = "http:" := by decide
  rw [origin?, originText, web, if_pos kind, machineText, web, colon, String.append_assoc] at h
  exact scheme_of_http h

end Concordance.Net
