import LiveConfig.Proofs.DurationSums

/-!
# The language of durations

Where only seconds have fractions, reading is exact. A fraction of a second is cut off behind its
ninth digit, and every component has a length in whole nanoseconds. What a text denotes is then the
sum of these lengths. In a text of any reasonable size the nanoseconds cannot leave their word, so
nothing but the seconds is ever out of range.
-/

namespace LiveConfig.Duration

/-- Only seconds have fractions: behind a run of digits and separators that has a separator stands
the letter of the second, or nothing. -/
def FractionsOfSeconds (cs : List Char) : Prop :=
  ∀ before run c after, cs = before ++ run ++ c :: after → (∀ d ∈ run, isNumeral d) →
    ¬isNumeral c → '.' ∈ run ∨ ',' ∈ run → c = 'S' ∨ c = 's'

/-- The nanoseconds in a fraction of a second. What is behind the ninth digit is cut off. -/
def cutOff (digits : List Char) : Nat :=
  Nat.ofDigitChars 10 digits 0 * 1000000000 / 10 ^ digits.length

/-- The length of a component in nanoseconds, where a fraction is one of a second. -/
def Component.duration (c : Component) : Nat :=
  c.whole * c.scale.span * 1000000000 + (c.fraction.elim 0 cutOff)

/-- The length of all components in nanoseconds. -/
def lengthOf (components : List Component) : Nat :=
  (components.map Component.duration).sum

/-! ## Fractions -/

/-- A run of digits stands for less than the power of ten with as many zeros. -/
theorem ofDigitChars_lt {digits : List Char} (all : ∀ c ∈ digits, c.isDigit) :
    Nat.ofDigitChars 10 digits 0 < 10 ^ digits.length := by
  induction digits with
  | nil => simp
  | cons c rest inductionHypothesis =>
    have others := inductionHypothesis fun d member => all d (List.mem_cons_of_mem c member)
    have digit : c.toNat - '0'.toNat ≤ 9 := by
      have bounds := all c List.mem_cons_self
      simp only [Char.isDigit, Bool.and_eq_true, decide_eq_true_eq] at bounds
      have upper : c.toNat ≤ 57 := UInt32.le_iff_toNat_le.mp bounds.2
      have zero : '0'.toNat = 48 := rfl
      omega
    rw [Nat.ofDigitChars_cons, Nat.ofDigitChars_eq_ofDigitChars_zero, List.length_cons, pow_succ]
    have front : 10 ^ rest.length * (10 * 0 + (c.toNat - '0'.toNat)) ≤ 10 ^ rest.length * 9 :=
      Nat.mul_le_mul_left _ (by omega)
    omega

/-- Zeros behind a number multiply it. -/
theorem ofDigitChars_zeros (digits : List Char) (count : Nat) :
    Nat.ofDigitChars 10 (digits ++ List.replicate count '0') 0 =
      10 ^ count * Nat.ofDigitChars 10 digits 0 := by
  rw [Nat.ofDigitChars_append, Nat.ofDigitChars_replicate_zero]

/-- Nine digits of a fraction, zeros at its end if it is shorter, are the nanoseconds in it. -/
theorem ofDigitChars_nine {digits : List Char} (all : ∀ c ∈ digits, c.isDigit) :
    Nat.ofDigitChars 10 (digits.take 9 ++ List.replicate (9 - (digits.take 9).length) '0') 0 =
      cutOff digits := by
  unfold cutOff
  rw [ofDigitChars_zeros]
  by_cases short : digits.length ≤ 9
  · have places : 1000000000 = 10 ^ (9 - digits.length) * 10 ^ digits.length := by
      rw [← pow_add, Nat.sub_add_cancel short]
      rfl
    rw [List.take_of_length_le short, places, ← Nat.mul_assoc, Nat.mul_div_cancel _ (by positivity),
      Nat.mul_comm]
  · -- The digits behind the ninth make less than one nanosecond.
    have nine : (digits.take 9).length = 9 := by
      rw [List.length_take]
      omega
    have joined := List.take_append_drop 9 digits
    have value : Nat.ofDigitChars 10 digits 0 =
        10 ^ (digits.drop 9).length * Nat.ofDigitChars 10 (digits.take 9) 0 +
          Nat.ofDigitChars 10 (digits.drop 9) 0 := by
      conv_lhs => rw [← joined]
      rw [Nat.ofDigitChars_append, Nat.ofDigitChars_eq_ofDigitChars_zero]
    have rest : Nat.ofDigitChars 10 (digits.drop 9) 0 < 10 ^ (digits.drop 9).length :=
      ofDigitChars_lt fun c member => all c (List.mem_of_mem_drop member)
    have places : 10 ^ digits.length = 10 ^ (digits.drop 9).length * 1000000000 := by
      have length : digits.length = (digits.drop 9).length + 9 := by
        rw [List.length_drop]
        omega
      rw [length, pow_add]
      rfl
    rw [nine, places, Nat.mul_div_mul_right _ _ (by decide), value,
      Nat.mul_add_div (by positivity), Nat.div_eq_of_lt rest]
    simp

/-- A fraction of a second is less than one. -/
theorem cutOff_lt {digits : List Char} (all : ∀ c ∈ digits, c.isDigit) :
    cutOff digits < 1000000000 := by
  apply Nat.div_lt_of_lt_mul
  exact Nat.mul_lt_mul_of_pos_right (ofDigitChars_lt all) (by decide)

/-- The fraction of a second is read to the nanosecond. -/
theorem secondFraction_toNat {digits : List Char} (all : ∀ c ∈ digits, c.isDigit) :
    (secondFraction digits).toNat = cutOff digits := by
  have below := cutOff_lt all
  simp only [secondFraction, ofDigitChars_nine all]
  exact UInt64.toNat_ofNat_of_lt' (by rw [UInt64.size]; omega)

/-! ## Components -/

/-- A component whose fraction, if it has one, is a fraction of a second. -/
def Component.OfSeconds (c : Component) : Prop :=
  ∀ digits, c.fraction = some digits → c.scale = .seconds ∧ ∀ d ∈ digits, d.isDigit

/-- Such a component adds its whole part to the seconds, and less than a second besides. -/
theorem Component.OfSeconds.exact {c : Component} (ofSeconds : c.OfSeconds) :
    c.secs = c.whole * c.scale.span ∧ c.nanos < 1000000000 ∧
      c.duration = c.secs * 1000000000 + c.nanos := by
  unfold secs nanos duration carried
  cases fraction : c.fraction with
  | none => simp
  | some digits =>
    obtain ⟨scale, all⟩ := ofSeconds digits fraction
    have read := secondFraction_toNat all
    have below := cutOff_lt all
    simp only [if_pos scale, Option.elim_some, read, UInt64.toNat_zero, Nat.add_zero]
    exact ⟨trivial, below, trivial⟩

/-- Such components have a length that the sums hold between them. -/
theorem lengthOf_eq {components : List Component} (all : ∀ c ∈ components, c.OfSeconds) :
    lengthOf components = secondsOf components * 1000000000 + nanosOf components := by
  induction components with
  | nil => rfl
  | cons c rest inductionHypothesis =>
    have first := (all c List.mem_cons_self).exact.2.2
    have others := inductionHypothesis fun d member => all d (List.mem_cons_of_mem c member)
    simp only [lengthOf, secondsOf, nanosOf, List.map_cons, List.sum_cons] at others ⊢
    omega

/-- Their nanoseconds grow by less than a second with every component. -/
theorem nanosOf_le {components : List Component} (all : ∀ c ∈ components, c.OfSeconds) :
    nanosOf components ≤ components.length * 1000000000 := by
  have bound := List.sum_le_card_nsmul (components.map Component.nanos) 1000000000 <| by
    intro n member
    obtain ⟨c, there, rfl⟩ := List.mem_map.mp member
    exact (all c there).exact.2.1.le
  rwa [List.length_map, smul_eq_mul] at bound

/-- As long as there are not too many, only whole seconds decide whether they are in range. -/
theorem inRange_iff {components : List Component} (all : ∀ c ∈ components, c.OfSeconds)
    (few : components.length < 4294967296) :
    InRange components ↔ secondsOf components < UInt64.size := by
  have nanos := nanosOf_le all
  apply and_iff_left
  rw [UInt64.size]
  omega

/-- Their fractions do not leave the range. -/
theorem checked_of_seconds {components : List Component} (all : ∀ c ∈ components, c.OfSeconds)
    (few : components.length < 4294967296) : ¬FractionLeavesRange components := by
  rintro ⟨before, last, after, rfl, -, whole, outside⟩
  rw [List.append_cons] at all few
  have allBefore (c : Component) (member : c ∈ before ++ [last]) : c.OfSeconds :=
    all c (List.mem_append_left _ member)
  apply outside
  rw [inRange_iff allBefore (by simp at few ⊢; omega), secondsOf_append]
  have exact := (all last (by simp)).exact.1
  simpa [secondsOf, exact] using whole

/-! ## Texts -/

/-- What holds of the fractions in a text holds of those in its parts. -/
theorem FractionsOfSeconds.part {cs part : List Char} (seconds : FractionsOfSeconds cs)
    (within : part <:+: cs) : FractionsOfSeconds part := by
  obtain ⟨front, back, rfl⟩ := within
  rintro before run c after rfl numeral other separated
  exact seconds (front ++ before) run c (after ++ back) (by simp) numeral other separated

/-- Only seconds have fractions if behind the first separator all letters are those of seconds. -/
theorem fractionsOfSeconds_of_tail {front back : List Char} (plain : '.' ∉ front ∧ ',' ∉ front)
    (seconds : ∀ c ∈ back, isNumeral c ∨ c = 'S' ∨ c = 's') :
    FractionsOfSeconds (front ++ back) := by
  intro before run c after split numeral other separated
  rcases List.append_eq_append_iff.mp split with ⟨between, behind, there⟩ | ⟨between, ahead, -⟩
  · have member : c ∈ back := by simp [there]
    exact (seconds c member).resolve_left other
  · -- The separator would stand in front.
    rcases separated with isPoint | comma
    · exact absurd (by simp [ahead, isPoint]) plain.1
    · exact absurd (by simp [ahead, comma]) plain.2

/-- What is left of a text without its blanks is a part of it. -/
theorem trimChars_part (cs : List Char) : Text.trimChars cs <:+: cs := by
  have back := List.dropWhile_suffix Text.isBlank (l := (cs.dropWhile Text.isBlank).reverse)
  have kept : Text.trimChars cs <+: cs.dropWhile Text.isBlank := by
    rw [← List.reverse_suffix]
    simpa [Text.trimChars] using back
  exact kept.isInfix.trans (List.dropWhile_suffix _).isInfix

/-- No other unit has the letter of the second. -/
theorem Scale.seconds_of_letter {scale : Scale} (named : scale.letter = 'S') :
    scale = .seconds := by
  cases scale <;> first | rfl | contradiction

/-- A number with a fraction has a separator, and digits behind it. -/
theorem Numeral.separated {number digits : List Char} {whole : Nat}
    (numeral : Numeral number whole (some digits)) :
    (∀ d ∈ digits, d.isDigit) ∧ ('.' ∈ number ∨ ',' ∈ number) := by
  cases numeral with
  | @fraction before after separator all fits apart nonempty allAfter =>
    refine ⟨allAfter, ?_⟩
    rcases apart with rfl | rfl
    · exact .inl (by simp)
    · exact .inr (by simp)

/-- Only seconds have fractions in what is written where only seconds have fractions. -/
theorem Written.ofSeconds {text : List Char} {inTime : Bool} {components : List Component}
    (written : Written text inTime components) (seconds : FractionsOfSeconds text) :
    ∀ c ∈ components, c.OfSeconds := by
  induction written with
  | nothing => simp
  | @component text number inTime components c last before numeral side named inductionHypothesis =>
    intro d member
    rcases List.mem_append.mp member with earlier | isLast
    · exact inductionHypothesis (seconds.part (List.prefix_append ..).isInfix) d earlier
    · obtain rfl := List.mem_singleton.mp isLast
      intro digits fraction
      rw [fraction] at numeral
      obtain ⟨allDigits, separated⟩ := numeral.separated
      obtain ⟨other, -⟩ := Scale.letter_other named
      have second : c = 'S' ∨ c = 's' :=
        seconds text number c [] (by simp) numeral.run.2.1 other separated
      refine ⟨?_, allDigits⟩
      have upper : c.toUpper = 'S' := by rcases second with rfl | rfl <;> rfl
      rw [upper] at named
      exact Scale.seconds_of_letter named.symm
  | marker before marks inductionHypothesis =>
    exact inductionHypothesis (seconds.part (List.prefix_append ..).isInfix)

/-- Every component takes two characters at least. -/
theorem Written.length_le {text : List Char} {inTime : Bool} {components : List Component}
    (written : Written text inTime components) : components.length ≤ text.length := by
  induction written with
  | nothing => rfl
  | component before numeral side named inductionHypothesis =>
    simp only [List.length_append, List.length_singleton]
    omega
  | marker before marks inductionHypothesis =>
    simp only [List.length_append, List.length_singleton]
    omega

/-- A text of reasonable size has few components. -/
theorem Denotes.few {text : String} {components : List Component}
    (denoted : Denotes text components) (short : text.length < 4294967296) :
    components.length < 4294967296 := by
  obtain ⟨-, p, body, inTime, trimmed, -, written⟩ := denoted
  have kept := (trimChars_part text.toList).length_le
  have length := written.length_le
  rw [trimmed, List.length_cons, String.length_toList] at kept
  omega

/-- A text denotes components with fractions of seconds if it has no other fractions. -/
theorem Denotes.ofSeconds {text : String} {components : List Component}
    (denoted : Denotes text components) (seconds : FractionsOfSeconds text.toList) :
    ∀ c ∈ components, c.OfSeconds := by
  obtain ⟨-, p, body, inTime, trimmed, -, written⟩ := denoted
  have kept := trimChars_part text.toList
  rw [trimmed] at kept
  exact written.ofSeconds ((seconds.part kept).part (List.suffix_cons p body).isInfix)

/-- A text with fractions of seconds alone is read to the nanosecond if what it denotes can be
represented. -/
theorem Denotes.read_exactly {text : String} {components : List Component}
    (denoted : Denotes text components) (all : ∀ c ∈ components, c.OfSeconds)
    (few : components.length < 4294967296)
    (fits : lengthOf components < UInt64.size * 1000000000) :
    ∃ d, readDuration text = .ok d ∧ d.totalNanos = lengthOf components := by
  rw [lengthOf_eq all] at fits ⊢
  have whole : secondsOf components < UInt64.size := by omega
  apply readDuration_exact denoted ((inRange_iff all few).mpr whole)
  omega

/-- A text is a duration exactly if it is written as one, and it is read as what is written, to the
nanosecond, as long as that can be represented. A longer one is refused by the last carry if its
whole seconds fit 64 bits, and otherwise by the component that leaves the range. -/
theorem read_what_is_written (text : String) (short : text.length < 4294967296)
    (seconds : FractionsOfSeconds text.toList) :
    ((∀ components, ¬Denotes text components) →
      readDuration text = .error (.unreadable (.duration text))) ∧
    ∀ components, Denotes text components →
      (lengthOf components < UInt64.size * 1000000000 →
        ∃ d, readDuration text = .ok d ∧ d.totalNanos = lengthOf components) ∧
      (UInt64.size * 1000000000 ≤ lengthOf components →
        readDuration text = .error
          (if secondsOf components < UInt64.size then .tooLong
            else .unreadable (.duration text))) := by
  refine ⟨readDuration_malformed, fun components denoted => ?_⟩
  have all := denoted.ofSeconds seconds
  have few := denoted.few short
  have inRange := inRange_iff all few
  constructor
  · exact denoted.read_exactly all few
  · intro long
    rw [lengthOf_eq all] at long
    by_cases whole : secondsOf components < UInt64.size
    · rw [if_pos whole]
      apply readDuration_tooLong denoted
      exact ⟨inRange.mpr whole, by omega⟩
    · rw [if_neg whole]
      exact readDuration_refused denoted (mt inRange.mp whole) (checked_of_seconds all few)

/-- A second and a half is read as such, with a zero behind the half. -/
theorem second_and_half_read :
    FractionsOfSeconds "PT1,50S".toList ∧ Denotes "PT1,50S" [⟨1, some ['5', '0'], .seconds⟩] ∧
      ∃ d, readDuration "PT1,50S" = .ok d ∧ d.totalNanos = 1500000000 := by
  have seconds : FractionsOfSeconds "PT1,50S".toList :=
    @fractionsOfSeconds_of_tail "PT1".toList ",50S".toList (by decide) (by simp [isNumeral])
  have numeral := Numeral.withFraction (n := 1) (by decide) (.inr rfl)
    (List.cons_ne_nil '5' ['0']) (by simp)
  have digits : Nat.toDigits 10 1 = ['1'] := rfl
  rw [digits] at numeral
  have denoted : Denotes "PT1,50S" [⟨1, some ['5', '0'], .seconds⟩] := by
    simpa using denotes_seconds numeral
  refine ⟨seconds, denoted, ?_⟩
  obtain ⟨-, written⟩ := read_what_is_written "PT1,50S" (by decide) seconds
  exact (written _ denoted).1 (by decide)

end LiveConfig.Duration
