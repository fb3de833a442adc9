/-
# Concordance.Proofs.Sums -- what counters add up to

Counters are added in 32-bit words, from the left, and the first abort ends the
matter.  The other side of every statement here is a sum of natural numbers: counters
add up to another (`Parts.AddsUp`), which is possible exactly while both sums fit a word
(`Parts.Fits`, `Parts.fits_iff_exists_addsUp`).

Two lemmas say all that a sum does.  Counters that fit are the exact sum so far
(`Parts.sumFrom_append`); counters that do not are a fault, whatever stands behind them
(`Parts.sumFrom_append_of_not_fits`).  So a sum is exact or the first abort unless the
counters in front overflow (`Parts.SumsWhileFits`), and then it is neither.
-/
import Concordance.Lookup
import Mathlib

namespace Concordance

set_option autoImplicit false

namespace Parts

/-! ## Exact sums -/

/-- Both sums of the counters are 32-bit words. -/
def Fits (counters : List Parts) : Prop :=
  (counters.map (·.done.toNat)).sum < UInt32.size ∧
    (counters.map (·.total.toNat)).sum < UInt32.size

instance (counters : List Parts) : Decidable (Fits counters) := by
  unfold Fits
  infer_instance

/-- The counters add up to `p`: the sums are exact, and the total is final if every total is. -/
structure AddsUp (p : Parts) (counters : List Parts) : Prop where
  done : p.done.toNat = (counters.map (·.done.toNat)).sum
  total : p.total.toNat = (counters.map (·.total.toNat)).sum
  final : p.final = counters.all (·.final)

theorem AddsUp.fits {p : Parts} {counters : List Parts} (exact : p.AddsUp counters) :
    Fits counters :=
  ⟨exact.done ▸ p.done.toNat_lt_size, exact.total ▸ p.total.toNat_lt_size⟩

theorem AddsUp.unique {p q : Parts} {counters : List Parts} (first : p.AddsUp counters)
    (second : q.AddsUp counters) : p = q := by
  have done : p.done = q.done := UInt32.toNat_inj.1 (first.done.trans second.done.symm)
  have total : p.total = q.total := UInt32.toNat_inj.1 (first.total.trans second.total.symm)
  have final : p.final = q.final := first.final.trans second.final.symm
  cases p
  cases q
  congr

/-- Counters add up to something exactly while their sums fit a word. -/
theorem fits_iff_exists_addsUp {counters : List Parts} :
    Fits counters ↔ ∃ p : Parts, p.AddsUp counters := by
  constructor
  · rintro ⟨done, total⟩
    exact ⟨⟨.ofNatLT _ done, .ofNatLT _ total, counters.all (·.final)⟩,
      UInt32.toNat_ofNatLT .., UInt32.toNat_ofNatLT .., rfl⟩
  · rintro ⟨p, exact⟩
    exact exact.fits

theorem addsUp_singleton (p : Parts) : p.AddsUp [p] := by
  constructor <;> simp

theorem addsUp_nil : nothing.AddsUp [] := ⟨rfl, rfl, rfl⟩

/-- A sum may stand for its summands, wherever they are. -/
theorem AddsUp.replace_iff {p q : Parts} {summands : List Parts} (exact : p.AddsUp summands)
    (front back : List Parts) :
    q.AddsUp (front ++ (summands ++ back)) ↔ q.AddsUp (front ++ p :: back) := by
  constructor <;>
  · rintro ⟨done, total, final⟩
    constructor
    · simpa [exact.done] using done
    · simpa [exact.total] using total
    · simpa [exact.final] using final

theorem AddsUp.fits_replace_iff {p : Parts} {summands : List Parts} (exact : p.AddsUp summands)
    (front back : List Parts) :
    Fits (front ++ (summands ++ back)) ↔ Fits (front ++ p :: back) := by
  simp only [fits_iff_exists_addsUp, exact.replace_iff]

/-- Fewer counters fit where more do. -/
theorem Fits.sublist {fewer more : List Parts} (fits : Fits more) (part : fewer.Sublist more) :
    Fits fewer :=
  ⟨(part.map _).sum_le_sum (fun _ _ => Nat.zero_le _) |>.trans_lt fits.1,
    (part.map _).sum_le_sum (fun _ _ => Nat.zero_le _) |>.trans_lt fits.2⟩

/-! ## Adding -/

theorem addWord_of_fits {a b : UInt32} (fits : a.toNat + b.toNat < UInt32.size) :
    addWord a b = .ok (a + b) := if_pos fits

theorem addWord_of_exceeds {a b : UInt32} (exceeds : ¬ a.toNat + b.toNat < UInt32.size) :
    addWord a b = .error .counterOverflow := if_neg exceeds

/-- Two counters that fit are added exactly. -/
theorem add_of_fits {p q : Parts} (fits : Fits [p, q]) :
    ∃ r, p.add q = .ok r ∧ r.AddsUp [p, q] := by
  have doneFits : p.done.toNat + q.done.toNat < UInt32.size := by simpa using fits.1
  have totalFits : p.total.toNat + q.total.toNat < UInt32.size := by simpa using fits.2
  have done := addWord_of_fits doneFits
  have total := addWord_of_fits totalFits
  refine ⟨⟨p.done + q.done, p.total + q.total, p.final && q.final⟩, ?_, ?_, ?_, ?_⟩
  · rw [add, done, total]
    rfl
  · simpa using addWord_toNat done
  · simpa using addWord_toNat total
  · simp

/-- Two counters that do not fit are a fault. -/
theorem add_of_not_fits {p q : Parts} (exceeds : ¬ Fits [p, q]) :
    p.add q = .error .counterOverflow := by
  by_cases doneFits : p.done.toNat + q.done.toNat < UInt32.size
  · have totalExceeds : ¬ p.total.toNat + q.total.toNat < UInt32.size := by
      intro totalFits
      exact exceeds ⟨by simpa using doneFits, by simpa using totalFits⟩
    rw [add, addWord_of_fits doneFits, addWord_of_exceeds totalExceeds]
    rfl
  · rw [add, addWord_of_exceeds doneFits]
    rfl

/-! ## Adding up -/

/-- Counters that fit are the exact sum so far. -/
theorem sumFrom_append {acc p : Parts} {counters : List Parts} (exact : p.AddsUp (acc :: counters))
    (rest : List (Except Failure Parts)) :
    sumFrom acc (counters.map .ok ++ rest) = sumFrom p rest := by
  induction counters generalizing acc with
  | nil => rw [(addsUp_singleton acc).unique exact, List.map_nil, List.nil_append]
  | cons q counters ih =>
      have front : [acc, q].Sublist (acc :: q :: counters) :=
        (List.nil_sublist counters).cons_cons q |>.cons_cons acc
      obtain ⟨next, added, sum⟩ := add_of_fits (exact.fits.sublist front)
      rw [List.map_cons, List.cons_append, sumFrom, added]
      exact ih ((sum.replace_iff [] counters).1 exact)

/-- Counters that do not fit are a fault, whatever stands behind them. -/
theorem sumFrom_append_of_not_fits {acc : Parts} {counters : List Parts}
    (exceeds : ¬ Fits (acc :: counters)) (rest : List (Except Failure Parts)) :
    sumFrom acc (counters.map .ok ++ rest) = .error (.fault .counterOverflow) := by
  induction counters generalizing acc with
  | nil => exact absurd (addsUp_singleton acc).fits exceeds
  | cons q counters ih =>
      rw [List.map_cons, List.cons_append, sumFrom]
      by_cases fits : Fits [acc, q]
      · obtain ⟨next, added, sum⟩ := add_of_fits fits
        rw [added]
        exact ih fun fits => exceeds ((sum.fits_replace_iff [] counters).2 fits)
      · rw [add_of_not_fits fits]

/-- Reports are counters up to the first failure, or all counters. -/
theorem reports_cut {ε : Type} (reports : List (Except ε Parts)) :
    (∃ counters : List Parts, reports = counters.map .ok) ∨
      ∃ (counters : List Parts) (e : ε) (rest : List (Except ε Parts)),
        reports = counters.map .ok ++ .error e :: rest := by
  induction reports with
  | nil => exact Or.inl ⟨[], rfl⟩
  | cons report reports ih =>
      cases report with
      | error e => exact Or.inr ⟨[], e, reports, rfl⟩
      | ok p =>
          rcases ih with ⟨counters, rfl⟩ | ⟨counters, e, rest, rfl⟩
          · exact Or.inl ⟨p :: counters, rfl⟩
          · exact Or.inr ⟨p :: counters, e, rest, rfl⟩

/-- Reports are counters that fit, or such counters up to the first failure, or they begin with
counters that do not fit. -/
theorem reports_cases {ε : Type} (reports : List (Except ε Parts)) :
    (∃ (counters : List Parts) (p : Parts), reports = counters.map .ok ∧ p.AddsUp counters) ∨
      (∃ (counters : List Parts) (e : ε) (rest : List (Except ε Parts)),
        reports = counters.map .ok ++ .error e :: rest ∧ Fits counters) ∨
      ∃ (counters : List Parts) (rest : List (Except ε Parts)),
        reports = counters.map .ok ++ rest ∧ ¬ Fits counters := by
  rcases reports_cut reports with ⟨counters, rfl⟩ | ⟨counters, e, rest, rfl⟩
  · by_cases fits : Fits counters
    · obtain ⟨p, exact⟩ := fits_iff_exists_addsUp.1 fits
      exact Or.inl ⟨counters, p, rfl, exact⟩
    · exact Or.inr (Or.inr ⟨counters, [], (List.append_nil _).symm, fits⟩)
  · by_cases fits : Fits counters
    · exact Or.inr (Or.inl ⟨counters, e, rest, rfl, fits⟩)
    · exact Or.inr (Or.inr ⟨counters, .error e :: rest, rfl, fits⟩)

/-- Counters that fit are given as their exact sum. -/
theorem sum_of_addsUp {p : Parts} {counters : List Parts} (exact : p.AddsUp counters) :
    sum (counters.map .ok) = .ok p := by
  rw [sum, ← List.append_nil (counters.map Except.ok),
    sumFrom_append ((addsUp_nil.replace_iff [] counters).1 exact), sumFrom]

/-- The first failure is the answer if the counters in front of it fit. -/
theorem sum_of_first {counters : List Parts} (fits : Fits counters) (e : Failure)
    (rest : List (Except Failure Parts)) :
    sum (counters.map .ok ++ .error e :: rest) = .error e := by
  obtain ⟨p, exact⟩ := fits_iff_exists_addsUp.1 fits
  rw [sum, sumFrom_append ((addsUp_nil.replace_iff [] counters).1 exact), sumFrom]

/-- Counters that do not fit are never given, whatever stands behind them. -/
theorem sum_of_not_fits {counters : List Parts} (exceeds : ¬ Fits counters)
    (rest : List (Except Failure Parts)) :
    sum (counters.map .ok ++ rest) = .error (.fault .counterOverflow) :=
  sumFrom_append_of_not_fits (mt (addsUp_nil.fits_replace_iff [] counters).2 exceeds) rest

/-- Counters are given only if nothing failed. -/
theorem not_mem_of_sum_eq_ok {reports : List (Except Failure Parts)} {p : Parts}
    (given : sum reports = .ok p) (f : Failure) : .error f ∉ reports := by
  rcases reports_cases reports with ⟨counters, q, rfl, _⟩ | ⟨counters, e, rest, rfl, fits⟩ |
    ⟨counters, rest, rfl, exceeds⟩
  · simp
  · rw [sum_of_first fits] at given
    cases given
  · rw [sum_of_not_fits exceeds] at given
    cases given

/-- Only an abort that was reported is raised. -/
theorem mem_of_sum_eq_search {reports : List (Except Failure Parts)} {e : SearchError}
    (failed : sum reports = .error (.search e)) : .error (.search e) ∈ reports := by
  rcases reports_cases reports with ⟨counters, q, rfl, exact⟩ | ⟨counters, first, rest, rfl, fits⟩ |
    ⟨counters, rest, rfl, exceeds⟩
  · rw [sum_of_addsUp exact] at failed
    cases failed
  · rw [sum_of_first fits, Except.error.injEq] at failed
    rw [failed]
    exact List.mem_append_right _ List.mem_cons_self
  · rw [sum_of_not_fits exceeds] at failed
    cases failed

/-- One report is its own sum. -/
theorem sum_singleton (report : Except Failure Parts) : sum [report] = report := by
  cases report with
  | error e => rfl
  | ok p => exact sum_of_addsUp (addsUp_singleton p)

/-! ## Sums of sums -/

/-- The counters among reports. -/
def given (reports : List (Except Failure Parts)) : List Parts := reports.filterMap Except.toOption

@[simp] theorem given_append (front reports : List (Except Failure Parts)) :
    given (front ++ reports) = given front ++ given reports := List.filterMap_append

@[simp] theorem given_map_ok (counters : List Parts) : given (counters.map .ok) = counters := by
  induction counters with
  | nil => rfl
  | cons p rest ih => simpa [given, Except.toOption] using ih

theorem sumFrom_map_sum {acc : Parts} {groups : List (List (Except Failure Parts))}
    (fits : Fits (acc :: given groups.flatten)) :
    sumFrom acc (groups.map sum) = sumFrom acc groups.flatten := by
  induction groups generalizing acc with
  | nil => rfl
  | cons group groups ih =>
      rw [List.flatten_cons, given_append] at fits
      rw [List.map_cons, List.flatten_cons]
      rcases reports_cut group with ⟨counters, rfl⟩ | ⟨counters, e, rest, rfl⟩
      · -- The group is as good as its sum, and both bring the sum so far to the same.
        rw [given_map_ok] at fits
        have front : (acc :: counters).Sublist (acc :: (counters ++ given groups.flatten)) :=
          (List.sublist_append_left counters _).cons_cons acc
        obtain ⟨next, exact⟩ := fits_iff_exists_addsUp.1 (fits.sublist front)
        obtain ⟨p, sum⟩ := fits_iff_exists_addsUp.1
          (exact.fits.sublist (List.sublist_cons_self acc counters))
        have grouped : next.AddsUp [acc, p] :=
          (sum.replace_iff [acc] []).1 (by rwa [List.append_nil])
        rw [sum_of_addsUp sum, sumFrom_append exact]
        rw [← ih ((exact.fits_replace_iff [] _).1 fits)]
        exact sumFrom_append grouped _
      · -- The group fails as its first failure does, and so does the whole.
        have front : (acc :: counters).Sublist
            (acc :: (given (counters.map .ok ++ .error e :: rest) ++ given groups.flatten)) := by
          rw [given_append, given_map_ok, List.append_assoc]
          exact (List.sublist_append_left counters _).cons_cons acc
        obtain ⟨next, exact⟩ := fits_iff_exists_addsUp.1 (fits.sublist front)
        have counted : Fits counters := exact.fits.sublist (List.sublist_cons_self acc counters)
        rw [sum_of_first counted, List.append_assoc, sumFrom_append exact]
        rfl

/-- Reports that fit may be added up in groups, group by group or all at once. -/
theorem sum_map_sum {groups : List (List (Except Failure Parts))}
    (fits : Fits (given groups.flatten)) : sum (groups.map sum) = sum groups.flatten :=
  sumFrom_map_sum ((addsUp_nil.fits_replace_iff [] _).1 fits)

/-! ## What a sum answers -/

/-- The counters of providers together, of which each gives counters or aborts. -/
def sumOf (reports : List (Except SearchError Parts)) : Except Failure Parts :=
  sum (reports.map (·.mapError Failure.search))

/-- The answers to any reports: exact sums, or the first abort, unless the counters in front of it
overflow a word. -/
structure SumsWhileFits (reports : List (Except SearchError Parts)) : Prop where
  /-- Counters are given exactly when nobody aborts and all counters fit, and then exactly. -/
  given : ∀ p, sumOf reports = .ok p ↔
    ∃ counters : List Parts, reports = counters.map .ok ∧ p.AddsUp counters
  /-- Counters that fit are always given. -/
  fitting : ∀ counters : List Parts, reports = counters.map .ok → Fits counters →
    ∃ p, sumOf reports = .ok p
  /-- An abort is raised exactly when it is the first and the counters in front of it fit. -/
  raised : ∀ e, sumOf reports = .error (.search e) ↔
    ∃ (counters : List Parts) (rest : List (Except SearchError Parts)),
      reports = counters.map .ok ++ .error e :: rest ∧ Fits counters
  /-- The one other answer is that counters, with no abort in front of them, do not fit. -/
  overflown : ∀ f, sumOf reports = .error (.fault f) ↔
    f = .counterOverflow ∧
      ∃ (counters : List Parts) (rest : List (Except SearchError Parts)),
        reports = counters.map .ok ++ rest ∧ ¬ Fits counters

section Reports

variable {counters : List Parts}

/-- What stands behind counters that are given does not change how they are told. -/
theorem sumOf_append (counters : List Parts) (rest : List (Except SearchError Parts)) :
    sumOf (counters.map .ok ++ rest) =
      sum (counters.map .ok ++ rest.map (·.mapError Failure.search)) := by
  rw [sumOf, List.map_append, List.map_map]
  rfl

theorem sumOf_of_addsUp {p : Parts} (exact : p.AddsUp counters) :
    sumOf (counters.map .ok) = .ok p := by
  rw [← List.append_nil (counters.map _), sumOf_append, List.map_nil, List.append_nil,
    sum_of_addsUp exact]

theorem sumOf_of_first (fits : Fits counters) (e : SearchError)
    (rest : List (Except SearchError Parts)) :
    sumOf (counters.map .ok ++ .error e :: rest) = .error (.search e) := by
  rw [sumOf_append]
  exact sum_of_first fits (.search e) _

theorem sumOf_of_not_fits (exceeds : ¬ Fits counters) (rest : List (Except SearchError Parts)) :
    sumOf (counters.map .ok ++ rest) = .error (.fault .counterOverflow) := by
  rw [sumOf_append]
  exact sum_of_not_fits exceeds _

end Reports

/-- **Sums are exact while they fit a word.**  Whatever the providers report, they are answered
the exact sums or the first abort, unless counters in front of it overflow: then neither. -/
theorem sumOf_sumsWhileFits (reports : List (Except SearchError Parts)) :
    SumsWhileFits reports := by
  have cases := reports_cases reports
  constructor
  case given =>
    intro p
    constructor
    · intro answer
      rcases cases with ⟨counters, q, rfl, exact⟩ | ⟨counters, e, rest, rfl, fits⟩ |
        ⟨counters, rest, rfl, exceeds⟩
      · rw [sumOf_of_addsUp exact, Except.ok.injEq] at answer
        exact ⟨counters, rfl, answer ▸ exact⟩
      · simp [sumOf_of_first fits] at answer
      · simp [sumOf_of_not_fits exceeds] at answer
    · rintro ⟨counters, rfl, exact⟩
      exact sumOf_of_addsUp exact
  case fitting =>
    rintro counters rfl fits
    obtain ⟨p, exact⟩ := fits_iff_exists_addsUp.1 fits
    exact ⟨p, sumOf_of_addsUp exact⟩
  case raised =>
    intro e
    constructor
    · intro answer
      rcases cases with ⟨counters, q, rfl, exact⟩ | ⟨counters, first, rest, rfl, fits⟩ |
        ⟨counters, rest, rfl, exceeds⟩
      · simp [sumOf_of_addsUp exact] at answer
      · rw [sumOf_of_first fits, Except.error.injEq, Failure.search.injEq] at answer
        exact ⟨counters, rest, answer ▸ rfl, fits⟩
      · simp [sumOf_of_not_fits exceeds] at answer
    · rintro ⟨counters, rest, rfl, fits⟩
      exact sumOf_of_first fits e rest
  case overflown =>
    intro f
    constructor
    · intro answer
      rcases cases with ⟨counters, q, rfl, exact⟩ | ⟨counters, e, rest, rfl, fits⟩ |
        ⟨counters, rest, rfl, exceeds⟩
      · simp [sumOf_of_addsUp exact] at answer
      · simp [sumOf_of_first fits] at answer
      · rw [sumOf_of_not_fits exceeds, Except.error.injEq, Failure.fault.injEq] at answer
        exact ⟨answer.symm, counters, rest, rfl, exceeds⟩
    · rintro ⟨rfl, counters, rest, rfl, exceeds⟩
      exact sumOf_of_not_fits exceeds rest

/-- Lookups that may report what they like: the first claims all but one of the parts that a word
counts, the second is fresh, the third was given up. -/
def overreported : List (Lookup Unit) :=
  [(Lookup.fresh "p").report ⟨0, 4294967295, true⟩, .fresh "p", (Lookup.fresh "p").abort "gone"]

/-- The first abort is not the answer of three lookups whose counters overflow in front of it, nor
is anything else that a sum should tell. -/
theorem sumOf_overflows :
    overreported.map Lookup.progress =
        [.ok ⟨0, 4294967295, true⟩, .ok ⟨0, 1, true⟩, .error (.abort "p" "gone")] ∧
      sumOf (overreported.map Lookup.progress) = .error (.fault .counterOverflow) := by
  decide

end Parts

end Concordance
