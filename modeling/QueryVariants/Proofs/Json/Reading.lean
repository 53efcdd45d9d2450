import Mathlib.Tactic.SplitIfs
import QueryVariants.JsonValue
import QueryVariants.Proofs.Json.Reader
import QueryVariants.Proofs.Text.Numeral

/-!
# What the reader makes of the written forms

A written form is read as a value when the reader takes exactly the written characters, whatever follows.
Only a number cares about what follows: it goes on while there are digits, so the statement is restricted
to forms in front of a comma, a closing bracket or the end of a line. Forms read one by one are read as a
sequence by an induction on the list, with the separators between them.
-/

namespace QueryVariants

open Text

namespace Json

/-- A character that may stand behind a value. -/
def endsValue (c : Char) : Prop :=
  c = ',' ∨ c = ']' ∨ c = '\x7d' ∨ c = '\n'

/-- The reader takes the written form for the value and stops behind it. -/
def Reads {α : Type} (read : Reader α) (written : List Char) (a : α) : Prop :=
  ∀ c rest, endsValue c → read (written ++ c :: rest) = some (a, c :: rest)

/-! ### Numbers -/

section

variable {c : Char} {n : Nat} {rest : List Char}

theorem digits_append {run : List Char} (hne : run ≠ []) (hrun : ∀ d ∈ run, d.isDigit = true)
    (hc : c.isDigit = false) : digits (run ++ c :: rest) = some (run, c :: rest) := by
  have htake : (run ++ c :: rest).takeWhile Char.isDigit = run := by
    rw [List.takeWhile_append_of_pos hrun, List.takeWhile_cons, hc]
    simp
  have hdrop : (run ++ c :: rest).dropWhile Char.isDigit = c :: rest := by
    rw [List.dropWhile_append_of_pos hrun, List.dropWhile_cons, hc]
    simp
  rw [digits, htake, hdrop]
  exact if_neg (by simpa using hne)

/-- A number other than zero has no zero in front. -/
theorem head?_natDigits_ne_zero (hn : 0 < n) : (natDigits n).head? ≠ some '0' := by
  induction n using Nat.strongRecOn with
  | ind n ih =>
      by_cases hlt : n < 10
      · have hdigit : ∀ m < 10, 0 < m → Nat.digitChar m ≠ '0' := by decide
        rw [natDigits, Nat.toDigits_of_lt_base hlt, List.head?_cons]
        exact fun h => hdigit n hlt hn (Option.some.inj h)
      · have hle : 10 ≤ n := by omega
        have hhead := ih (n / 10) (by omega) (by omega)
        obtain ⟨d, others, hdigits⟩ := List.exists_cons_of_ne_nil (natDigits_ne_nil (n := n / 10))
        rw [natDigits, Nat.toDigits_of_base_le (by decide) hle, ← natDigits, hdigits]
        rwa [hdigits] at hhead

theorem wholePart_natDigits (hc : c.isDigit = false) :
    wholePart (natDigits n ++ c :: rest) = some (natDigits n, c :: rest) := by
  rcases Nat.eq_zero_or_pos n with rfl | hn
  · rfl
  · have hread : digits (natDigits n ++ c :: rest) = some (natDigits n, c :: rest) :=
      digits_append natDigits_ne_nil (fun _ => isDigit_of_mem_natDigits) hc
    unfold wholePart
    split
    · rename_i tail heq
      obtain ⟨d, others, hdigits⟩ := List.exists_cons_of_ne_nil (natDigits_ne_nil (n := n))
      rw [hdigits, List.cons_append] at heq
      have hzero := head?_natDigits_ne_zero hn
      rw [hdigits, (List.cons.inj heq).1] at hzero
      exact absurd rfl hzero
    · exact hread

theorem endsValue.isDigit_eq_false (hc : endsValue c) : c.isDigit = false := by
  rcases hc with rfl | rfl | rfl | rfl <;> rfl

theorem unsignedNumber_natDigits (hc : endsValue c) :
    unsignedNumber (natDigits n ++ c :: rest) = some ((n, 0), c :: rest) := by
  have hfraction : fraction (c :: rest) = some ([], c :: rest) := by
    rcases hc with rfl | rfl | rfl | rfl <;> rfl
  have hexponent : exponent (c :: rest) = some (0, c :: rest) := by
    rcases hc with rfl | rfl | rfl | rfl <;> rfl
  simp only [unsignedNumber, wholePart_natDigits hc.isDigit_eq_false, hfraction, hexponent,
    Option.bind_eq_bind, Option.bind_some, List.append_nil, digitsValue_natDigits]
  rfl

/-- A digit opens nothing but a number. -/
theorem value_of_isDigit {depth : Nat} (hc : c.isDigit = true) :
    value (depth + 1) (c :: rest) =
      (unsignedNumber (c :: rest)).map fun ((n, power), rest) => (.number n power, rest) := by
  have hne : ∀ d : Char, d.isDigit = false → c ≠ d := by
    rintro d hd rfl
    rw [hc] at hd
    cases hd
  rw [value]
  · rw [scalar]
    · rw [numeral]
      intro tail heq
      exact hne '-' rfl (List.cons.inj heq).1
    all_goals
      intro tail heq
      exact hne _ rfl (List.cons.inj heq).1
  all_goals
    intro tail heq
    exact hne _ rfl (List.cons.inj heq).1

theorem reads_natDigits (depth n : Nat) :
    Reads (value (depth + 1)) (natDigits n) (.number n 0) := by
  intro c rest hc
  obtain ⟨d, others, hdigits⟩ := List.exists_cons_of_ne_nil (natDigits_ne_nil (n := n))
  have hd : d.isDigit = true := isDigit_of_mem_natDigits (n := n) (by simp [hdigits])
  have hread : unsignedNumber (natDigits n ++ c :: rest) = some ((n, 0), c :: rest) :=
    unsignedNumber_natDigits hc
  rw [hdigits, List.cons_append] at hread ⊢
  rw [value_of_isDigit hd, hread]
  rfl

end

/-! ### Strings -/

theorem hexValue?_hexDigit {n : Nat} (h : n < 16) : hexValue? (hexDigit n) = some n := by
  have hall : ∀ m < 16, hexValue? (hexDigit m) = some m := by decide
  exact hall n h

/-- A character below 32 is written as the last two of four hexadecimal digits. -/
theorem codeUnit?_hexDigits {n : Nat} (h : n < 256) :
    codeUnit? '0' '0' (hexDigit (n / 16)) (hexDigit (n % 16)) = some n := by
  have hzero : hexValue? '0' = some 0 := rfl
  rw [codeUnit?, hzero, hexValue?_hexDigit (by omega : n / 16 < 16),
    hexValue?_hexDigit (by omega : n % 16 < 16)]
  have hsum : 4096 * 0 + 256 * 0 + 16 * (n / 16) + n % 16 = n := by omega
  exact congrArg some hsum

/-- Each character is read back from its written form, whichever of the forms that is. -/
theorem chars_jsonChar (c : Char) (rest : List Char) :
    chars (jsonChar c ++ rest) = consChar c (chars rest) := by
  unfold jsonChar
  split_ifs with hquote hbackslash hnewline hreturn htab hback hfeed hcontrol
  · rw [hquote]
    rfl
  · rw [hbackslash]
    rfl
  · rw [hnewline]
    rfl
  · rw [hreturn]
    rfl
  · rw [htab]
    rfl
  · rw [← Char.ofNat_toNat c, hback]
    rfl
  · rw [← Char.ofNat_toNat c, hfeed]
    rfl
  · have hunit := codeUnit?_hexDigits (n := c.toNat) (by omega)
    have hhigh : isHighSurrogate c.toNat = false := by
      simp only [isHighSurrogate, Bool.and_eq_false_iff, decide_eq_false_iff_not]
      omega
    have hlow : isLowSurrogate c.toNat = false := by
      simp only [isLowSurrogate, Bool.and_eq_false_iff, decide_eq_false_iff_not]
      omega
    simp only [List.cons_append, List.nil_append, chars, hunit, hhigh, hlow, Char.ofNat_toNat]
    rfl
  · rw [List.singleton_append, chars]
    · exact if_neg hcontrol
    · exact fun h => hquote h
    all_goals
      intros
      simp_all

theorem chars_jsonChars (s rest : List Char) :
    chars (s.flatMap jsonChar ++ '"' :: rest) = some (s, rest) := by
  induction s with
  | nil => rfl
  | cons c s ih =>
      rw [List.flatMap_cons, List.append_assoc, chars_jsonChar, ih]
      rfl

theorem text_jsonString (s : String) (rest : List Char) :
    text ((jsonString s).toList ++ rest) = some (s, rest) := by
  rw [jsonString, String.toList_ofList, List.append_assoc, List.cons_append, List.singleton_append,
    text, chars_jsonChars, Option.map_some]
  simp only [String.ofList_toList]

theorem reads_jsonString (depth : Nat) (s : String) :
    Reads (value (depth + 1)) (jsonString s).toList (.string s) := by
  intro c rest _
  have hread := text_jsonString s (c :: rest)
  rw [jsonString, String.toList_ofList] at hread ⊢
  rw [List.append_assoc, List.cons_append] at hread ⊢
  rw [value]
  · rw [scalar, hread]
    rfl
  all_goals
    intro tail heq
    cases heq

/-! ### Parts between brackets -/

/-- The written form begins with something else than a blank or a closing bracket. -/
def Opens (written : List Char) : Prop :=
  ∃ c rest, written = c :: rest ∧ isBlank c = false ∧ ¬endsValue c

theorem skipBlanks_cons {c : Char} {rest : List Char} (hc : isBlank c = false) :
    skipBlanks (c :: rest) = c :: rest := by
  rw [skipBlanks, List.dropWhile_cons, hc]
  rfl

theorem skipBlanks_append {c : Char} {margin rest : List Char} (hmargin : ∀ d ∈ margin, isBlank d = true)
    (hc : isBlank c = false) : skipBlanks (margin ++ c :: rest) = c :: rest := by
  rw [skipBlanks, List.dropWhile_append_of_pos hmargin]
  exact skipBlanks_cons hc

theorem opens_natDigits (n : Nat) : Opens (natDigits n) := by
  obtain ⟨d, others, hdigits⟩ := List.exists_cons_of_ne_nil (natDigits_ne_nil (n := n))
  have hd : d.isDigit = true := isDigit_of_mem_natDigits (n := n) (by simp [hdigits])
  have hne : ∀ c : Char, c.isDigit = false → d ≠ c := by
    rintro c hc rfl
    rw [hd] at hc
    cases hc
  refine ⟨d, others, hdigits, ?_, ?_⟩
  · simp [isBlank, hne]
  · intro hends
    rw [hends.isDigit_eq_false] at hd
    cases hd

theorem opens_jsonString (s : String) (rest : List Char) : Opens ((jsonString s).toList ++ rest) := by
  refine ⟨'"', s.toList.flatMap jsonChar ++ ['"'] ++ rest, ?_, rfl, by simp [endsValue]⟩
  rw [jsonString, String.toList_ofList]
  simp

section

variable {α β : Type} {part : Reader α} {closing : Char} {margin ending rest : List Char}
  {parts : List β} {write : β → List Char} {result : β → α}

theorem Opens.append {written : List Char} (h : Opens written) : Opens (written ++ rest) := by
  obtain ⟨c, tail, rfl, hc⟩ := h
  exact ⟨c, tail ++ rest, rfl, hc⟩

theorem Opens.skipBlanks_append {written : List Char} (h : Opens written)
    (hmargin : ∀ c ∈ margin, isBlank c = true) :
    skipBlanks (margin ++ (written ++ rest)) = written ++ rest := by
  obtain ⟨c, tail, rfl, hc, -⟩ := h
  exact Json.skipBlanks_append hmargin hc

theorem opens_intercalate {separator : List Char} (hne : parts ≠ []) (hopens : ∀ b ∈ parts, Opens (write b)) :
    Opens (List.intercalate separator (parts.map write)) := by
  obtain ⟨b, others, rfl⟩ := List.exists_cons_of_ne_nil hne
  have hfirst := hopens b List.mem_cons_self
  cases others with
  | nil => rwa [List.map_singleton, List.intercalate_singleton]
  | cons next others =>
      rw [List.map_cons, List.map_cons, List.intercalate_cons_cons, List.append_assoc]
      exact hfirst.append

/-- What stands between the last part and the text behind the bracket. -/
def Closes (closing : Char) (ending : List Char) : Prop :=
  (closing = ']' ∨ closing = '\x7d') ∧ (ending = [] ∨ ending = ['\n'])

theorem sequence_last {bound : Nat} {written : List Char} {a : α} (hread : Reads part written a)
    (hcloses : Closes closing ending) :
    sequence closing part (bound + 1) (written ++ (ending ++ closing :: rest)) = some ([a], rest) := by
  obtain ⟨hclosing, hending⟩ := hcloses
  have hpart : part (written ++ (ending ++ closing :: rest)) = some (a, ending ++ closing :: rest) := by
    rcases hending with rfl | rfl
    · apply hread
      rcases hclosing with rfl | rfl <;> simp [endsValue]
    · apply hread
      simp [endsValue]
  have hskip : skipBlanks (ending ++ closing :: rest) = closing :: rest := by
    apply skipBlanks_append
    · rcases hending with rfl | rfl <;> simp [isBlank]
    · rcases hclosing with rfl | rfl <;> rfl
  rw [sequence, hpart]
  simp only [hskip]
  rcases hclosing with rfl | rfl <;> simp

theorem sequence_comma {bound : Nat} {written others : List Char} {a : α} (hread : Reads part written a)
    (hothers : Opens others) (hmargin : ∀ c ∈ margin, isBlank c = true) :
    sequence closing part (bound + 1) (written ++ ',' :: (margin ++ (others ++ rest))) =
      (sequence closing part bound (others ++ rest)).map fun (values, rest) => (a :: values, rest) := by
  have hcomma : skipBlanks (',' :: (margin ++ (others ++ rest))) = ',' :: (margin ++ (others ++ rest)) := rfl
  rw [sequence, hread ',' _ (.inl rfl)]
  simp only [hcomma, hothers.skipBlanks_append hmargin]

/-- Parts that are read one by one are read as a sequence, whatever blanks follow the commas. -/
theorem sequence_intercalate {bound : Nat} (hne : parts ≠ [])
    (hreads : ∀ b ∈ parts, Reads part (write b) (result b)) (hopens : ∀ b ∈ parts, Opens (write b))
    (hmargin : ∀ c ∈ margin, isBlank c = true) (hcloses : Closes closing ending)
    (hbound : parts.length ≤ bound) :
    sequence closing part bound
        (List.intercalate (',' :: margin) (parts.map write) ++ (ending ++ closing :: rest)) =
      some (parts.map result, rest) := by
  induction parts generalizing bound with
  | nil => exact absurd rfl hne
  | cons b parts ih =>
      obtain ⟨bound, rfl⟩ : ∃ smaller, bound = smaller + 1 :=
        Nat.exists_eq_add_one.2 (Nat.lt_of_lt_of_le (Nat.succ_pos _) hbound)
      have hfirst := hreads b List.mem_cons_self
      cases parts with
      | nil =>
          rw [List.map_singleton, List.intercalate_singleton]
          exact sequence_last hfirst hcloses
      | cons next parts =>
          have hothers : ∀ b ∈ next :: parts, Opens (write b) := fun b hb => hopens b (List.mem_cons_of_mem _ hb)
          have hrest := ih (List.cons_ne_nil _ _) (fun b hb => hreads b (List.mem_cons_of_mem _ hb)) hothers
            (Nat.le_of_succ_le_succ hbound)
          rw [List.map_cons, List.map_cons, List.intercalate_cons_cons, ← List.map_cons, List.append_assoc,
            List.append_assoc, List.cons_append,
            sequence_comma hfirst (opens_intercalate (List.cons_ne_nil _ _) hothers) hmargin, hrest]
          rfl

theorem length_le_length_intercalate (hopens : ∀ b ∈ parts, Opens (write b)) :
    parts.length ≤ (List.intercalate (',' :: margin) (parts.map write)).length := by
  induction parts with
  | nil => exact Nat.zero_le _
  | cons b parts ih =>
      obtain ⟨c, tail, hwrite, -⟩ := hopens b List.mem_cons_self
      cases parts with
      | nil =>
          rw [List.map_singleton, List.intercalate_singleton, hwrite]
          simp
      | cons next parts =>
          have hrest := ih fun b hb => hopens b (List.mem_cons_of_mem _ hb)
          rw [List.map_cons, List.map_cons, List.intercalate_cons_cons, ← List.map_cons, List.length_append,
            List.length_append, hwrite]
          simp only [List.length_cons] at hrest ⊢
          omega

/-- Parts that are read one by one are read between brackets. -/
theorem enclosed_intercalate (hne : parts ≠ [])
    (hreads : ∀ b ∈ parts, Reads part (write b) (result b)) (hopens : ∀ b ∈ parts, Opens (write b))
    (hmargin : ∀ c ∈ margin, isBlank c = true) (hcloses : Closes closing ending) :
    enclosed closing part
        (margin ++ (List.intercalate (',' :: margin) (parts.map write) ++ (ending ++ closing :: rest))) =
      some (parts.map result, rest) := by
  have hparts : Opens (List.intercalate (',' :: margin) (parts.map write)) := opens_intercalate hne hopens
  have hbound : parts.length ≤
      (List.intercalate (',' :: margin) (parts.map write) ++ (ending ++ closing :: rest)).length := by
    rw [List.length_append]
    exact Nat.le_add_right_of_le (length_le_length_intercalate hopens)
  have hread : sequence closing part
      (List.intercalate (',' :: margin) (parts.map write) ++ (ending ++ closing :: rest)).length
      (List.intercalate (',' :: margin) (parts.map write) ++ (ending ++ closing :: rest)) =
        some (parts.map result, rest) :=
    sequence_intercalate hne hreads hopens hmargin hcloses hbound
  rw [enclosed, hparts.skipBlanks_append hmargin]
  obtain ⟨c, tail, heq, -, hc⟩ := hparts
  have hclosing : c ≠ closing := by
    rintro rfl
    rcases hcloses.1 with rfl | rfl <;> exact hc (by simp [endsValue])
  rw [heq, List.cons_append] at hread ⊢
  simp only
  rw [if_neg hclosing, hread]

/-- A name, a colon and a value are read as a member. -/
theorem reads_member {name : String} {written : List Char} {a : α} (hread : Reads part written a)
    (hopens : Opens written) :
    Reads (member part) ((jsonString name).toList ++ ':' :: written) (name, a) := by
  intro c rest hc
  have hcolon : skipBlanks (':' :: (written ++ c :: rest)) = ':' :: (written ++ c :: rest) := rfl
  have hskip : skipBlanks (written ++ c :: rest) = written ++ c :: rest := by
    obtain ⟨d, tail, rfl, hd, -⟩ := hopens
    exact skipBlanks_cons hd
  rw [List.append_assoc, List.cons_append, member, text_jsonString]
  simp only [hcolon]
  rw [hskip, hread c rest hc]
  rfl

end

end Json

end QueryVariants
