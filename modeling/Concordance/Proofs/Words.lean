/-
# Concordance.Proofs.Words -- the words of a text, as written and in lower case

A text is put in lower case before it is cut into words, so a word that is read in it
need not be one of them.  Lower-casing keeps a character in its class, two capital
letters apart whose small forms are older than they are (`isDocumentChar_lowerChar`),
and it looks at the neighbours of nothing but a capital sigma.  So a maximal run that
holds no sigma, in a text without those two letters, is a word of the text once it is
put in lower case by itself (`lowerChars_mem_documentWords`).

The table of lower-case forms is checked run by run: a run of letters that lies within
one range of letters, and so does its image, needs no look at its members (`isWide`).
-/
import Concordance.Proofs.Lexing

namespace Concordance.Text

set_option autoImplicit false

/-! ## Maximal runs -/

/-- A run of characters that do not separate, which could not be longer at either end. -/
structure MaximalRun (sep : Char → Bool) (s run : List Char) : Prop where
  notEmpty : run ≠ []
  inside : ∀ c ∈ run, sep c = false
  cut : ∃ before after, s = before ++ (run ++ after) ∧
    (∀ c, before.getLast? = some c → sep c = true) ∧ ∀ c, after.head? = some c → sep c = true

theorem splitOnP_cut {α : Type} (sep : α → Bool) (s : List α) :
    (∀ c ∈ s, sep c = false) ∨ ∃ first x rest, s = first ++ x :: rest ∧ sep x = true ∧
      (∀ c ∈ first, sep c = false) := by
  induction s with
  | nil => simp
  | cons c rest ih =>
      by_cases separates : sep c = true
      · exact Or.inr ⟨[], c, rest, rfl, separates, by simp⟩
      · have inside : sep c = false := by simpa using separates
        rcases ih with all | ⟨first, x, after, rfl, isSep, before⟩
        · exact Or.inl (List.forall_mem_cons.2 ⟨inside, all⟩)
        · exact Or.inr ⟨c :: first, x, after, rfl, isSep, List.forall_mem_cons.2 ⟨inside, before⟩⟩

theorem cut_of_mem_splitOnP {α : Type} {sep : α → Bool} {s run : List α}
    (member : run ∈ s.splitOnP sep) :
    (∀ c ∈ run, sep c = false) ∧ ∃ before after, s = before ++ (run ++ after) ∧
      (∀ c, before.getLast? = some c → sep c = true) ∧ ∀ c, after.head? = some c → sep c = true := by
  induction count : s.length using Nat.strongRecOn generalizing s with
  | ind size ih =>
      rcases splitOnP_cut sep s with all | ⟨first, x, rest, rfl, isSep, inside⟩
      · rw [List.splitOnP_eq_singleton all, List.mem_singleton] at member
        subst member
        exact ⟨all, [], [], by simp, by simp, by simp⟩
      · rw [List.splitOnP_append_cons_of_forall_mem inside x isSep, List.mem_cons] at member
        rcases member with rfl | later
        · exact ⟨inside, [], x :: rest, by simp, by simp, by simpa using isSep⟩
        · have shorter : rest.length < size := by
            rw [← count, List.length_append, List.length_cons]
            omega
          obtain ⟨within, before, after, rfl, ends, starts⟩ := ih _ shorter later rfl
          refine ⟨within, first ++ x :: before, after, by simp, ?_, starts⟩
          intro c last
          cases before with
          | nil =>
              have same : x = c := by simpa using last
              rwa [← same]
          | cons y others =>
              refine ends c ?_
              simpa [List.getLast?_append, List.getLast?_cons_cons] using last

/-- The runs of a text are the maximal ones. -/
theorem mem_runs_iff {sep : Char → Bool} {s run : List Char} :
    run ∈ runs sep s ↔ MaximalRun sep s run := by
  rw [runs, List.mem_filter]
  constructor
  · rintro ⟨member, some⟩
    obtain ⟨inside, cut⟩ := cut_of_mem_splitOnP member
    exact ⟨by simpa using some, inside, cut⟩
  · rintro ⟨some, inside, before, after, rfl, ends, starts⟩
    refine ⟨?_, by simpa using some⟩
    have here : run ∈ (run ++ after).splitOnP sep := by
      cases after with
      | nil =>
          rw [List.append_nil, List.splitOnP_eq_singleton inside]
          exact List.mem_cons_self
      | cons x rest =>
          rw [List.splitOnP_append_cons_of_forall_mem inside x (starts x rfl)]
          exact List.mem_cons_self
    rcases List.eq_nil_or_concat before with rfl | ⟨front, x, rfl⟩
    · exact here
    · rw [List.concat_eq_append] at ends ⊢
      rw [List.append_assoc, List.singleton_append,
        List.splitOnP_append_cons front _ (ends x List.getLast?_concat)]
      exact List.mem_append_right _ here

/-- Separators at the ends make no runs. -/
theorem runs_trimChars {sep : Char → Bool} (separates : ∀ c, isBlank c = true → sep c = true)
    (s : List Char) : runs sep (trimChars s) = runs sep s := by
  have front (s : List Char) : runs sep (s.dropWhile isBlank) = runs sep s := by
    induction s with
    | nil => rfl
    | cons c rest ih =>
        rw [List.dropWhile_cons]
        split
        · rename_i blank
          rw [ih, runs, runs, List.splitOnP_cons_eq_if_modifyHead, if_pos (separates c blank), List.filter_cons]
          simp
        · rfl
  have back (s : List Char) : runs sep (s.rdropWhile isBlank) = runs sep s := by
    induction s using List.reverseRecOn with
    | nil => rfl
    | append_singleton rest c ih =>
        rw [List.rdropWhile_concat]
        split
        · rename_i blank
          rw [ih, runs, runs, List.splitOnP_append_cons rest [] (separates c blank)]
          simp
        · rfl
  rw [trimChars_eq, back, front]

/-! ## Blanks -/

theorem exists_range_of_isBlank {c : Char} (blank : isBlank c = true) :
    ∃ r ∈ blankRanges, ∃ i ∈ List.range (r.2 - r.1 + 1), c = Char.ofNat (r.1 + i) := by
  obtain ⟨r, member, least, most⟩ := (covered_iff (by decide) c.toNat).1 blank
  refine ⟨r, member, c.toNat - r.1, List.mem_range.2 (by omega), ?_⟩
  rw [Nat.add_sub_cancel' least, Char.ofNat_toNat]

theorem blankRanges_apart : ∀ r ∈ blankRanges, ∀ i ∈ List.range (r.2 - r.1 + 1),
    isDocumentChar (Char.ofNat (r.1 + i)) = false ∧ isQueryChar (Char.ofNat (r.1 + i)) = false := by
  decide +kernel

/-- No word of either kind holds a blank. -/
theorem isBlank_apart {c : Char} (blank : isBlank c = true) :
    isDocumentChar c = false ∧ isQueryChar c = false := by
  obtain ⟨r, isRange, i, inRange, rfl⟩ := exists_range_of_isBlank blank
  exact blankRanges_apart r isRange i inRange

theorem not_isBlank_of_isDocumentChar {c : Char} (isDocument : isDocumentChar c = true) :
    isBlank c = false := by
  cases blank : isBlank c with
  | false => rfl
  | true => rw [(isBlank_apart blank).1] at isDocument; cases isDocument

theorem not_isBlank_of_isQueryChar {c : Char} (isQuery : isQueryChar c = true) :
    isBlank c = false := by
  cases blank : isBlank c with
  | false => rfl
  | true => rw [(isBlank_apart blank).2] at isQuery; cases isQuery

/-- A text without blanks is trimmed already. -/
theorem trimChars_of_forall {s : List Char} (inside : ∀ c ∈ s, isBlank c = false) :
    trimChars s = s := dropEnds_of_forall inside

/-! ## The table of lower-case forms -/

/-- One of the ranges holds all code points from `lo` to `hi`. -/
def spans (ranges : List (Nat × Nat)) (lo hi : Nat) : Bool :=
  ranges.any fun r => Nat.ble hi r.2 && Nat.ble r.1 lo

/-- None of the ranges holds a code point from `lo` to `hi`. -/
def misses (ranges : List (Nat × Nat)) (lo hi : Nat) : Bool :=
  ranges.all fun r => Nat.blt r.2 lo || Nat.blt hi r.1

theorem covered_of_spans {ranges : List (Nat × Nat)} (ascending : Ascending ranges) {lo hi c : Nat}
    (spanned : spans ranges lo hi = true) (least : lo ≤ c) (most : c ≤ hi) :
    covered ranges c = true := by
  obtain ⟨r, member, within⟩ := List.any_eq_true.1 spanned
  rw [Bool.and_eq_true, Nat.ble_eq, Nat.ble_eq] at within
  exact (covered_iff ascending c).2 ⟨r, member, by omega, by omega⟩

theorem not_covered_of_misses {ranges : List (Nat × Nat)} (ascending : Ascending ranges)
    {lo hi c : Nat} (missed : misses ranges lo hi = true) (least : lo ≤ c) (most : c ≤ hi) :
    covered ranges c = false := by
  rw [← Bool.not_eq_true, covered_iff ascending]
  rintro ⟨r, member, lower, upper⟩
  have apart := List.all_eq_true.1 missed r member
  rw [Bool.or_eq_true, Nat.blt_eq, Nat.blt_eq] at apart
  omega

/-- All code points from `lo` to `hi` are characters. -/
def areChars (lo hi : Nat) : Bool := Nat.blt hi 0xd800 || (Nat.blt 0xdfff lo && Nat.blt hi 0x110000)

theorem toNat_ofNat_of_areChars {lo hi c : Nat} (valid : areChars lo hi = true) (least : lo ≤ c)
    (most : c ≤ hi) : (Char.ofNat c).toNat = c := by
  have isValid : c.isValidChar := by
    rw [areChars, Bool.or_eq_true, Bool.and_eq_true, Nat.blt_eq, Nat.blt_eq, Nat.blt_eq] at valid
    unfold Nat.isValidChar
    omega
  rw [Char.ofNat, dif_pos isValid]
  rfl

/-- The last code point to which a run of the table leads. -/
def lastTarget (run : Nat × Nat × Nat × Nat) : Nat := run.2.2.2 + (run.2.1 - run.1)

/-- A run of the table lies among letters and leads to letters, all of them new or none. -/
def isWide (run : Nat × Nat × Nat × Nat) : Bool :=
  areChars run.2.2.2 (lastTarget run) &&
    (spans alphabeticRanges run.1 run.2.1 && spans alphabeticRanges run.2.2.2 (lastTarget run)) &&
    ((misses recentRanges run.1 run.2.1 && misses recentRanges run.2.2.2 (lastTarget run)) ||
      (spans recentRanges run.1 run.2.1 && spans recentRanges run.2.2.2 (lastTarget run)))

/-- The two capital letters that are newer than their small forms. -/
def isLateCapital (c : Char) : Bool := c = '\ua7d2' || c = '\ua7d4'

/-- Each character of a run of the table is a letter that leads to a letter as new as itself, unless
it is a late capital. -/
def isWideEach (run : Nat × Nat × Nat × Nat) : Bool :=
  (List.range (run.2.1 - run.1 + 1)).all fun i =>
    decide (i % run.2.2.1 ≠ 0) || isLateCapital (Char.ofNat (run.1 + i)) ||
      isWide (run.1 + i, run.1 + i, 1, run.2.2.2 + i)

theorem lowercaseRuns_isWide :
    lowercaseRuns.all (fun run => isWide run || isWideEach run) = true := by
  decide +kernel

/-- Ranges ascend if each of them starts before the next one does. -/
theorem ascending_of_isChain {ranges : List (Nat × Nat)}
    (chain : ranges.IsChain (fun a b => a.1 < b.1)) : Ascending ranges :=
  have : IsTrans (Nat × Nat) (fun a b => a.1 < b.1) := ⟨fun _ _ _ => Nat.lt_trans⟩
  List.isChain_iff_pairwise.1 chain

theorem ascending_alphabeticRanges : Ascending alphabeticRanges :=
  ascending_of_isChain (by decide +kernel)

theorem ascending_recentRanges : Ascending recentRanges := ascending_of_isChain (by decide +kernel)

theorem lowerCode_cases (table : List (Nat × Nat × Nat × Nat)) (c : Nat) :
    lowerCode table c = c ∨ ∃ run ∈ table, run.1 ≤ c ∧ c ≤ run.2.1 ∧ (c - run.1) % run.2.2.1 = 0 ∧
      lowerCode table c = run.2.2.2 + (c - run.1) := by
  induction table with
  | nil => exact Or.inl rfl
  | cons run rest ih =>
      obtain ⟨lo, hi, step, target⟩ := run
      rw [lowerCode]
      split
      · exact Or.inl rfl
      · split
        · rename_i notBelow here
          exact Or.inr ⟨_, List.mem_cons_self, by simpa using notBelow, here.1, here.2, rfl⟩
        · rcases ih with same | ⟨run, member, least, most, fits, code⟩
          · exact Or.inl same
          · exact Or.inr ⟨run, List.mem_cons_of_mem _ member, least, most, fits, code⟩

/-- Letters are in the class of documents unless they are new. -/
theorem isDocumentChar_of_isAlphabetic {c : Char} (letter : isAlphabetic c = true) :
    isDocumentChar c = !covered recentRanges c.toNat := by
  simp [isDocumentChar, letter]

/-- A wide run of the table keeps the class of every character in it. -/
theorem isDocumentChar_of_isWide {run : Nat × Nat × Nat × Nat} (wide : isWide run = true) {c : Char}
    (least : run.1 ≤ c.toNat) (most : c.toNat ≤ run.2.1) :
    isDocumentChar (Char.ofNat (run.2.2.2 + (c.toNat - run.1))) = isDocumentChar c := by
  simp only [isWide, Bool.and_eq_true, Bool.or_eq_true] at wide
  obtain ⟨⟨valid, source, image⟩, news⟩ := wide
  have first : run.2.2.2 ≤ run.2.2.2 + (c.toNat - run.1) := Nat.le_add_right _ _
  have last : run.2.2.2 + (c.toNat - run.1) ≤ lastTarget run := by
    unfold lastTarget
    omega
  have exact := toNat_ofNat_of_areChars valid first last
  have letter : isAlphabetic c = true :=
    covered_of_spans ascending_alphabeticRanges source least most
  have small : isAlphabetic (Char.ofNat (run.2.2.2 + (c.toNat - run.1))) = true := by
    rw [isAlphabetic, exact]
    exact covered_of_spans ascending_alphabeticRanges image first last
  rw [isDocumentChar_of_isAlphabetic letter, isDocumentChar_of_isAlphabetic small, exact]
  rcases news with ⟨before, after⟩ | ⟨before, after⟩
  · rw [not_covered_of_misses ascending_recentRanges before least most,
      not_covered_of_misses ascending_recentRanges after first last]
  · rw [covered_of_spans ascending_recentRanges before least most,
      covered_of_spans ascending_recentRanges after first last]

/-- **Lower-casing keeps the class** of a character, late capitals apart. -/
theorem isDocumentChar_lowerChar {c : Char} (early : isLateCapital c = false) :
    isDocumentChar (lowerChar c) = isDocumentChar c := by
  rcases lowerCode_cases lowercaseRuns c.toNat with same | ⟨run, member, least, most, fits, code⟩
  · rw [lowerChar, same, Char.ofNat_toNat]
  · have checked := List.all_eq_true.1 lowercaseRuns_isWide run member
    rw [lowerChar, code]
    rcases Bool.or_eq_true_iff.1 checked with wide | each
    · exact isDocumentChar_of_isWide wide least most
    · have here := List.all_eq_true.1 each (c.toNat - run.1) (List.mem_range.2 (by omega))
      rw [Nat.add_sub_cancel' least, Char.ofNat_toNat, early] at here
      have single : isWide (c.toNat, c.toNat, 1, run.2.2.2 + (c.toNat - run.1)) = true := by
        simpa [fits] using here
      simpa using isDocumentChar_of_isWide single (Nat.le_refl _) (Nat.le_refl _)

/-! ## Lower-casing a text -/

/-- What becomes of a character between others. -/
def lowerPiece (before : List Char) (c : Char) (rest : List Char) : List Char :=
  if c = '\u03a3' then [if meetsCased before && !meetsCased rest then '\u03c2' else '\u03c3']
  else if c = '\u0130' then ['i', '\u0307']
  else [lowerChar c]

/-- What becomes of a character wherever it stands, unless it is a capital sigma. -/
def lowerAlone (c : Char) : List Char := if c = '\u0130' then ['i', '\u0307'] else [lowerChar c]

theorem lowerChars_cons (before : List Char) (c : Char) (rest : List Char) :
    lowerChars before (c :: rest) = lowerPiece before c rest ++ lowerChars (c :: before) rest := rfl

theorem lowerPiece_eq_lowerAlone {c : Char} (notSigma : c ≠ '\u03a3') (before rest : List Char) :
    lowerPiece before c rest = lowerAlone c := by
  rw [lowerPiece, if_neg notSigma, lowerAlone]

theorem lowerChars_append (before s t : List Char) :
    ∃ front, lowerChars before (s ++ t) = front ++ lowerChars (s.reverse ++ before) t := by
  induction s generalizing before with
  | nil => exact ⟨[], rfl⟩
  | cons c rest ih =>
      obtain ⟨front, cut⟩ := ih (c :: before)
      refine ⟨lowerPiece before c (rest ++ t) ++ front, ?_⟩
      rw [List.cons_append, lowerChars_cons, cut]
      simp

/-- Without a capital sigma nothing depends on what stands around. -/
theorem lowerChars_append_of_notMem {s : List Char} (noSigma : '\u03a3' ∉ s)
    (before t : List Char) :
    lowerChars before (s ++ t) = s.flatMap lowerAlone ++ lowerChars (s.reverse ++ before) t := by
  induction s generalizing before with
  | nil => rfl
  | cons c rest ih =>
      rw [List.mem_cons, not_or] at noSigma
      rw [List.cons_append, lowerChars_cons, lowerPiece_eq_lowerAlone (Ne.symm noSigma.1),
        ih noSigma.2]
      simp

theorem lowerChars_of_notMem {s : List Char} (noSigma : '\u03a3' ∉ s) (before : List Char) :
    lowerChars before s = s.flatMap lowerAlone := by
  simpa [lowerChars] using lowerChars_append_of_notMem noSigma before []

/-! ## Lower case and the class of documents -/

theorem not_isLateCapital_of_isDocumentChar {c : Char} (isDocument : isDocumentChar c = true) :
    isLateCapital c = false := by
  have late : isDocumentChar '\ua7d2' = false ∧ isDocumentChar '\ua7d4' = false := by
    decide +kernel
  cases isLate : isLateCapital c with
  | false => rfl
  | true =>
      simp only [isLateCapital, Bool.or_eq_true, decide_eq_true_eq] at isLate
      rcases isLate with rfl | rfl
      · rw [late.1] at isDocument
        cases isDocument
      · rw [late.2] at isDocument
        cases isDocument

theorem special_isDocumentChar :
    isDocumentChar '\u03a3' = true ∧ isDocumentChar '\u0130' = true ∧
      isDocumentChar '\u03c2' = true ∧ isDocumentChar '\u03c3' = true ∧
      isDocumentChar 'i' = true ∧ isDocumentChar '\u0307' = true := by
  decide +kernel

theorem isDocumentChar_of_mem_lowerPiece {before rest : List Char} {c d : Char}
    (isDocument : isDocumentChar c = true) (member : d ∈ lowerPiece before c rest) :
    isDocumentChar d = true := by
  obtain ⟨_, _, final, ordinary, dotless, dot⟩ := special_isDocumentChar
  unfold lowerPiece at member
  split at member
  · rw [List.mem_singleton] at member
    subst member
    split
    · exact final
    · exact ordinary
  · split at member
    · rcases List.mem_pair.1 member with rfl | rfl
      · exact dotless
      · exact dot
    · rw [List.mem_singleton] at member
      rw [member, isDocumentChar_lowerChar (not_isLateCapital_of_isDocumentChar isDocument)]
      exact isDocument

theorem isDocumentChar_of_mem_lowerChars {s : List Char}
    (inside : ∀ c ∈ s, isDocumentChar c = true) (before : List Char) :
    ∀ d ∈ lowerChars before s, isDocumentChar d = true := by
  induction s generalizing before with
  | nil => simp [lowerChars]
  | cons c rest ih =>
      rw [List.forall_mem_cons] at inside
      rw [lowerChars_cons, List.forall_mem_append]
      exact ⟨fun d => isDocumentChar_of_mem_lowerPiece inside.1, ih inside.2 _⟩

/-- A character that ends words still does so in lower case, and is a single one. -/
theorem lowerPiece_of_separator {c : Char} (separates : isDocumentChar c = false)
    (early : isLateCapital c = false) (before rest : List Char) :
    ∃ d, lowerPiece before c rest = [d] ∧ isDocumentChar d = false := by
  obtain ⟨sigma, dotted, _⟩ := special_isDocumentChar
  refine ⟨lowerChar c, ?_, by rw [isDocumentChar_lowerChar early, separates]⟩
  rw [lowerPiece, if_neg, if_neg]
  · rintro rfl
    rw [dotted] at separates
    cases separates
  · rintro rfl
    rw [sigma] at separates
    cases separates

/-- The image of what ends words ends words. -/
theorem lowerChars_append_of_ends {before : List Char}
    (ends : ∀ c, before.getLast? = some c → isDocumentChar c = false)
    (early : ∀ c ∈ before, isLateCapital c = false) (t : List Char) :
    ∃ front, lowerChars [] (before ++ t) = front ++ lowerChars before.reverse t ∧
      ∀ d, front.getLast? = some d → isDocumentChar d = false := by
  rcases List.eq_nil_or_concat before with rfl | ⟨others, c, rfl⟩
  · exact ⟨[], rfl, by simp⟩
  · rw [List.concat_eq_append] at ends early ⊢
    obtain ⟨front, cut⟩ := lowerChars_append [] others (c :: t)
    obtain ⟨d, piece, isSep⟩ := lowerPiece_of_separator (ends c List.getLast?_concat)
      (early c (by simp)) (others.reverse ++ []) t
    refine ⟨front ++ [d], ?_, ?_⟩
    · rw [List.append_assoc, List.singleton_append, cut, lowerChars_cons, piece]
      simp
    · intro e last
      rw [List.getLast?_concat] at last
      cases last
      exact isSep

theorem lowerChars_ne_nil {s : List Char} (some : s ≠ []) (before : List Char) :
    lowerChars before s ≠ [] := by
  obtain ⟨c, rest, rfl⟩ := List.exists_cons_of_ne_nil some
  rw [lowerChars_cons, lowerPiece]
  split
  · simp
  · split <;> simp

/-- **A run without a sigma is a word of its text in lower case**, if no late capital stands in the
text. -/
theorem lowerChars_mem_documentWords {s run : List Char} (member : run ∈ documentWords s)
    (noSigma : '\u03a3' ∉ run) (early : ∀ c ∈ s, isLateCapital c = false) :
    lowerChars [] run ∈ documentWords (lowerChars [] s) := by
  obtain ⟨notEmpty, inside, before, after, rfl, ends, starts⟩ := mem_runs_iff.1 member
  simp only [List.forall_mem_append] at early
  have within : ∀ c ∈ run, isDocumentChar c = true := by simpa using inside
  refine mem_runs_iff.2 ⟨lowerChars_ne_nil notEmpty [], ?_, ?_⟩
  · simpa using isDocumentChar_of_mem_lowerChars within []
  · obtain ⟨front, cut, last⟩ := lowerChars_append_of_ends (by simpa using ends) early.1 (run ++ after)
    refine ⟨front, lowerChars (run.reverse ++ before.reverse) after, ?_, by simpa using last, ?_⟩
    · rw [cut, lowerChars_append_of_notMem noSigma, lowerChars_of_notMem noSigma]
    · intro d first
      cases after with
      | nil => cases first
      | cons c rest =>
          have separates : isDocumentChar c = false := by simpa using starts c rfl
          obtain ⟨e, piece, isSep⟩ := lowerPiece_of_separator separates
            (early.2.2 c List.mem_cons_self) (run.reverse ++ before.reverse) rest
          rw [lowerChars_cons, piece] at first
          cases first
          simpa using isSep

/-! ## Lower case and the class of queries -/

/-- A character that becomes part of a query word.  The capital I with a dot leaves a mark behind,
which none may hold. -/
def isSearchable (c : Char) : Bool := c ≠ '\u0130' && isQueryChar (lowerChar c)

theorem special_isQueryChar :
    isQueryChar (lowerChar '\u03a3') = true ∧ isQueryChar '\u03c2' = true ∧
      isQueryChar '\u03c3' = true ∧ isQueryChar '\u0307' = false := by
  decide +kernel

theorem forall_isQueryChar_lowerPiece (before : List Char) (c : Char) (rest : List Char) :
    (∀ d ∈ lowerPiece before c rest, isQueryChar d = true) ↔ isSearchable c = true := by
  obtain ⟨sigma, final, ordinary, dot⟩ := special_isQueryChar
  unfold lowerPiece isSearchable
  split
  · rename_i isSigma
    subst isSigma
    rw [List.forall_mem_singleton, sigma]
    split
    · simp [final]
    · simp [ordinary]
  · split
    · rename_i isDotted
      simp [isDotted, dot]
    · rename_i notDotted
      simp [notDotted]

/-- A text becomes a query word if each of its characters does. -/
theorem forall_isQueryChar_lowerChars (before s : List Char) :
    (∀ d ∈ lowerChars before s, isQueryChar d = true) ↔ ∀ c ∈ s, isSearchable c = true := by
  induction s generalizing before with
  | nil => simp [lowerChars]
  | cons c rest ih =>
      rw [lowerChars_cons, List.forall_mem_append, forall_isQueryChar_lowerPiece, ih,
        List.forall_mem_cons]

end Concordance.Text
