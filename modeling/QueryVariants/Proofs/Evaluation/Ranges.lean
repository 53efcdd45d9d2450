import QueryVariants.Proofs.Calendar.Order
import QueryVariants.Proofs.Calendar.WrittenForm
import QueryVariants.Proofs.Evaluation.Consults
import QueryVariants.Proofs.Random.Bounds

/-!
# Numbers and days between two bounds

A random number and a random day have two constant texts as bounds. Once the bounds are read, what is left is a
draw between two numbers: it stays between them, reaches each of them, and what it comes to is written in a
form that is read back, so the value of one range can be a bound of another.
-/

namespace QueryVariants.Evaluation

open Macro Text

theorem readInteger_eq_ok_iff {place value : String} {n : Int} :
    readInteger place value = .ok n ↔ Denotes (trim value.toList) n := by
  rw [← readSigned?_eq_some_iff, readInteger]
  cases readSigned? (trim value.toList) <;> simp

theorem readDate_eq_ok_iff {value : String} {date : Date} :
    readDate value = .ok date ↔ Date.read? value.toList = some date := by
  rw [readDate]
  cases Date.read? value.toList <;> simp

section

variable {scope : Scope} {names : Names} {state : State} {start stop : String}

/-- What is left when the bounds are read: the range is empty, or a number is drawn. -/
theorem evaluate_random {low high : Int} (hstart : Denotes (trim start.toList) low)
    (hstop : Denotes (trim stop.toList) high) :
    evaluate scope names (.random (.text start) (.text stop)) state =
      if high < low then (.error (.emptyRange start stop), state)
      else (.ok (toString (state.stream.between low high).1),
        { state with stream := (state.stream.between low high).2 }) := by
  have hlow : Evaluator.ofExcept (readInteger "random() start" start) state = (.ok low, state) := by
    rw [readInteger_eq_ok_iff.2 hstart]
    rfl
  have hhigh : Evaluator.ofExcept (readInteger "random() end" stop) state = (.ok high, state) := by
    rw [readInteger_eq_ok_iff.2 hstop]
    rfl
  simp only [evaluate, pure_bind]
  rw [Evaluator.bind_of_ok hlow, Evaluator.bind_of_ok hhigh]
  split <;> rfl

theorem evaluate_date {low high : Date} (kind : DateKind) (hstart : readDate start = .ok low)
    (hstop : readDate stop = .ok high) :
    evaluate scope names (.date (.text start) (.text stop) kind) state =
      if high.dayNumber - low.dayNumber < 0 then (.error (.emptyRange start stop), state)
      else (.ok (Date.ofDayNumber (low.dayNumber +
          (state.stream.between 0 (high.dayNumber - low.dayNumber)).1)).toString,
        { state with stream := (state.stream.between 0 (high.dayNumber - low.dayNumber)).2 }) := by
  have hlow : Evaluator.ofExcept (readDate start) state = (.ok low, state) := by
    rw [hstart]
    rfl
  have hhigh : Evaluator.ofExcept (readDate stop) state = (.ok high, state) := by
    rw [hstop]
    rfl
  simp only [evaluate, pure_bind]
  rw [Evaluator.bind_of_ok hlow, Evaluator.bind_of_ok hhigh]
  split <;> rfl

end

/-! ### Numbers -/

/-- **A random number is any number of its range.** Let two texts denote signed numbers of 64 bits.
1. If the first is at most the second, then in every state the value is the text of a number between them, which
is read back as that number; it is the number that the machine computes from the next words of the stream, and also
the one that exact integers give, so nothing wraps around where it should not; and one word is taken, or two
if the first leaves the carry open.
2. In that case every number between them is the value for some words.
3. If the second is less than the first, the range is empty and no word is taken. -/
theorem evaluate_random_between {start stop : String} {low high : Int64}
    (hstart : Denotes (trim start.toList) low.toInt) (hstop : Denotes (trim stop.toList) high.toInt)
    (scope : Scope) (names : Names) :
    (low ≤ high →
      (∀ state, ∃ number, low ≤ number ∧ number ≤ high ∧
        number = Random.wordBetween low high state.stream.next.1 state.stream.next.2.next.1 ∧
        number.toInt =
          Random.numberBetween low.toInt high.toInt state.stream.next.1 state.stream.next.2.next.1 ∧
        evaluate scope names (.random (.text start) (.text stop)) state =
          (.ok (toString number.toInt),
            { state with
              stream :=
                if Random.needsSecond (high.toInt - low.toInt + 1).toNat state.stream.next.1 then
                  state.stream.next.2.next.2
                else state.stream.next.2 }) ∧
        ∀ place, readInteger place (toString number.toInt) = .ok number.toInt) ∧
      ∀ number, low ≤ number → number ≤ high →
        ∃ first second, Random.wordBetween low high first second = number) ∧
    (high < low → ∀ state,
      evaluate scope names (.random (.text start) (.text stop)) state =
        (.error (.emptyRange start stop), state)) := by
  have hfirst : -(maxSigned + 1 : Int) ≤ low.toInt := hstart.1
  have hlast : high.toInt ≤ maxSigned := hstop.2.1
  refine ⟨fun h => ⟨fun state => ?_, fun number hlow hhigh => ?_⟩, fun h state => ?_⟩
  · have hle := Int64.le_iff_toInt_le.1 h
    have hfit : (high.toInt - low.toInt + 1).toNat ≤ UInt64.size := by
      simp only [maxSigned, UInt64.size] at *
      omega
    have hexact := Random.toInt_wordBetween h state.stream.next.1 state.stream.next.2.next.1
    obtain ⟨hlow, hhigh⟩ :=
      Random.numberBetween_bounds hle hfirst hlast state.stream.next.1 state.stream.next.2.next.1
    refine ⟨_, ?_, ?_, rfl, hexact, ?_, fun place => ?_⟩
    · rwa [Int64.le_iff_toInt_le, hexact]
    · rwa [Int64.le_iff_toInt_le, hexact]
    · rw [evaluate_random hstart hstop, if_neg (Int.not_lt.2 hle), Random.Stream.between_eq _ hfit, hexact]
    · rw [readInteger_eq_ok_iff, (trimmed_toString _).trim_eq, hexact]
      exact denotes_toString (Int.le_trans hfirst hlow) (Int.le_trans hhigh hlast)
  · obtain ⟨first, second, hnumber⟩ := Random.exists_numberBetween_eq (Int64.le_iff_toInt_le.1 hlow)
      (Int64.le_iff_toInt_le.1 hhigh) hfirst hlast
    refine ⟨first, second, Int64.toInt_inj.1 ?_⟩
    rw [Random.toInt_wordBetween (Int64.le_trans hlow hhigh), hnumber]
  · rw [evaluate_random hstart hstop, if_pos (Int64.lt_iff_toInt_lt.1 h)]

/-- The range of all signed numbers, whose width wraps around to zero: minus one is drawn for some words. -/
theorem evaluate_random_between_all :
    Denotes (trim "-9223372036854775808".toList) Int64.minValue.toInt ∧
      Denotes (trim " +9223372036854775807".toList) Int64.maxValue.toInt ∧
      ∃ first second, Random.wordBetween Int64.minValue Int64.maxValue first second = -1 := by
  have hstart : Denotes (trim "-9223372036854775808".toList) Int64.minValue.toInt :=
    readSigned?_eq_some_iff.1 (by decide)
  have hstop : Denotes (trim " +9223372036854775807".toList) Int64.maxValue.toInt :=
    readSigned?_eq_some_iff.1 (by decide)
  have hbetween :=
    evaluate_random_between hstart hstop ⟨∅, .empty, .scaleOne⟩ (Scope.names ⟨∅, .empty, .scaleOne⟩)
  exact ⟨hstart, hstop, (hbetween.1 (by decide)).2 (-1) (by decide) (by decide)⟩

/-! ### Days -/

/-- The day between two dates that two random words lead to. -/
def dayBetween (low high : Date) (first second : UInt64) : Date :=
  Date.ofDayNumber (low.dayNumber + Random.numberBetween 0 (high.dayNumber - low.dayNumber) first second)

section

variable {low high : Date}

/-- A day between two dates is one that there is, and comes between them in calendar order. -/
theorem dayBetween_bounds (hlow : low.Valid) (hhigh : high.Valid) (h : low ≤ high) (first second : UInt64) :
    (dayBetween low high first second).Valid ∧ low ≤ dayBetween low high first second ∧
      dayBetween low high first second ≤ high := by
  have hle := (Date.dayNumber_le_iff hlow hhigh).2 h
  have hspan : 0 ≤ high.dayNumber - low.dayNumber := by omega
  obtain ⟨hfirst, hlast⟩ :=
    Random.numberBetween_bounds hspan (by decide) (Date.dayNumber_sub_le hlow hhigh) first second
  have hvalid : (dayBetween low high first second).Valid := by
    apply Date.valid_ofDayNumber
    · have := (Date.dayNumber_range hlow).1
      omega
    · have := (Date.dayNumber_range hhigh).2
      omega
  refine ⟨hvalid, ?_, ?_⟩
  · rw [← Date.dayNumber_le_iff hlow hvalid, dayBetween, Date.dayNumber_ofDayNumber]
    omega
  · rw [← Date.dayNumber_le_iff hvalid hhigh, dayBetween, Date.dayNumber_ofDayNumber]
    omega

/-- Every date between two others is drawn for some words. -/
theorem exists_dayBetween_eq {day : Date} (hlow : low.Valid) (hhigh : high.Valid) (hday : day.Valid)
    (hfirst : low ≤ day) (hlast : day ≤ high) : ∃ first second, dayBetween low high first second = day := by
  have hleast := (Date.dayNumber_le_iff hlow hday).2 hfirst
  have hmost := (Date.dayNumber_le_iff hday hhigh).2 hlast
  have hoffset : 0 ≤ day.dayNumber - low.dayNumber := by omega
  have hspan : day.dayNumber - low.dayNumber ≤ high.dayNumber - low.dayNumber := by omega
  obtain ⟨first, second, hnumber⟩ :=
    Random.exists_numberBetween_eq hoffset hspan (by decide) (Date.dayNumber_sub_le hlow hhigh)
  refine ⟨first, second, ?_⟩
  have hsum : low.dayNumber + (day.dayNumber - low.dayNumber) = day.dayNumber := by omega
  rw [dayBetween, hnumber, hsum]
  exact Date.ofDayNumber_dayNumber hday

end

/-- **A random day is any day of its range, and can be read again.** Let two texts be read as dates.
1. If the first is at most the second in calendar order, then in every state the value is the text of a date
between them, which is read back as that date; it is a function of the next words of the stream, of which one
is taken, or two if the first leaves the carry open.
2. In that case every date between them is the value for some words.
3. In that case other texts that are read as the same dates, and another kind, give the same value in every state.
4. If the second comes before the first, the range is empty and no word is taken. -/
theorem evaluate_date_between {start stop : String} {low high : Date} (hstart : readDate start = .ok low)
    (hstop : readDate stop = .ok high) (scope : Scope) (names : Names) :
    (low ≤ high →
      (∀ kind state, ∃ day, low ≤ day ∧ day ≤ high ∧
        day = dayBetween low high state.stream.next.1 state.stream.next.2.next.1 ∧
        evaluate scope names (.date (.text start) (.text stop) kind) state =
          (.ok day.toString,
            { state with
              stream :=
                if Random.needsSecond (high.dayNumber - low.dayNumber + 1).toNat state.stream.next.1 then
                  state.stream.next.2.next.2
                else state.stream.next.2 }) ∧
        readDate day.toString = .ok day) ∧
      (∀ day, day.Valid → low ≤ day → day ≤ high → ∃ first second, dayBetween low high first second = day) ∧
      ∀ otherStart otherStop kind otherKind, readDate otherStart = .ok low → readDate otherStop = .ok high →
        evaluate scope names (.date (.text otherStart) (.text otherStop) otherKind) =
          evaluate scope names (.date (.text start) (.text stop) kind)) ∧
    (high < low → ∀ kind state,
      evaluate scope names (.date (.text start) (.text stop) kind) state =
        (.error (.emptyRange start stop), state)) := by
  have hlow : low.Valid := Date.valid_of_read? (readDate_eq_ok_iff.1 hstart)
  have hhigh : high.Valid := Date.valid_of_read? (readDate_eq_ok_iff.1 hstop)
  refine ⟨fun h => ?_, fun h kind state => ?_⟩
  · have hle := (Date.dayNumber_le_iff hlow hhigh).2 h
    have hspan : ¬high.dayNumber - low.dayNumber < 0 := by omega
    have hfit : (high.dayNumber - low.dayNumber - 0 + 1).toNat ≤ UInt64.size := by
      have := Date.dayNumber_sub_le hlow hhigh
      simp only [maxSigned, UInt64.size] at *
      omega
    refine ⟨fun kind state => ?_, fun day hday => exists_dayBetween_eq hlow hhigh hday, ?_⟩
    · obtain ⟨hvalid, hfirst, hlast⟩ :=
        dayBetween_bounds hlow hhigh h state.stream.next.1 state.stream.next.2.next.1
      refine ⟨_, hfirst, hlast, rfl, ?_, ?_⟩
      · rw [evaluate_date kind hstart hstop, if_neg hspan, Random.Stream.between_eq _ hfit, Int.sub_zero]
        rfl
      · rw [readDate_eq_ok_iff, Date.toString, String.toList_ofList]
        exact Date.read?_chars hvalid
    · intro otherStart otherStop kind otherKind hotherStart hotherStop
      funext state
      rw [evaluate_date otherKind hotherStart hotherStop, evaluate_date kind hstart hstop,
        if_neg hspan, if_neg hspan]
  · have hspan : high.dayNumber - low.dayNumber < 0 := by
      have := (Date.dayNumber_lt_iff hhigh hlow).2 h
      omega
    rw [evaluate_date kind hstart hstop, if_pos hspan]

/-- From the last day of a year of five digits, with a sign, to the first day of the next: the later day is drawn
for some words. -/
theorem evaluate_date_between_newYear :
    readDate " +10000-12-31" = .ok ⟨10000, 12, 31⟩ ∧ readDate "+010001-1- 1 " = .ok ⟨10001, 1, 1⟩ ∧
      ∃ first second, dayBetween ⟨10000, 12, 31⟩ ⟨10001, 1, 1⟩ first second = ⟨10001, 1, 1⟩ := by
  have hstart : readDate " +10000-12-31" = .ok ⟨10000, 12, 31⟩ := readDate_eq_ok_iff.2 (by decide)
  have hstop : readDate "+010001-1- 1 " = .ok ⟨10001, 1, 1⟩ := readDate_eq_ok_iff.2 (by decide)
  have hbetween :=
    evaluate_date_between hstart hstop ⟨∅, .empty, .scaleOne⟩ (Scope.names ⟨∅, .empty, .scaleOne⟩)
  exact ⟨hstart, hstop, (hbetween.1 (by decide)).2.1 ⟨10001, 1, 1⟩ (by decide) (by decide) (by decide)⟩

end QueryVariants.Evaluation
