import LiveConfig.Proofs.WrittenDurations

/-!
# Sums of components

The components of a written duration are added up in two 64-bit words, one of seconds and one of
nanoseconds. The addition of a whole part is checked. The addition of a fraction is not, and the
carry from the nanoseconds comes after the last check.

While both exact sums stay in range the words hold them (`sums?_exact`). A whole part that leaves
the range refuses the text (`sums?_refused`). What is left are the texts whose fractions leave the
range: for them alone reading ends neither with the exact duration nor with a refusal.
-/

namespace LiveConfig.Duration

/-- The seconds that a component stands for, its nanoseconds aside. -/
def Component.secs (c : Component) : Nat :=
  c.whole * c.scale.span + c.carried.1.toNat

/-- The nanoseconds that the fraction of a component stands for, its seconds aside. -/
def Component.nanos (c : Component) : Nat :=
  c.carried.2.toNat

/-- The exact sum of the seconds. -/
def secondsOf (components : List Component) : Nat :=
  (components.map Component.secs).sum

/-- The exact sum of the nanoseconds. -/
def nanosOf (components : List Component) : Nat :=
  (components.map Component.nanos).sum

/-- Both sums fit 64 bits. -/
def InRange (components : List Component) : Prop :=
  secondsOf components < UInt64.size ∧ nanosOf components < UInt64.size

/-- Some fraction leaves the range. The sums were in range before its component, and the whole part
of the component leaves the seconds in range. -/
def FractionLeavesRange (components : List Component) : Prop :=
  ∃ before last after, components = before ++ last :: after ∧ InRange before ∧
    secondsOf before + last.whole * last.scale.span < UInt64.size ∧ ¬InRange (before ++ [last])

/-- The nanoseconds carry the seconds out of range when both sums are added. -/
def CarryLeavesRange (components : List Component) : Prop :=
  InRange components ∧ UInt64.size ≤ secondsOf components + nanosOf components / 1000000000

/-! ## Exact sums -/

theorem secondsOf_append (left right : List Component) :
    secondsOf (left ++ right) = secondsOf left + secondsOf right := by
  simp [secondsOf]

theorem nanosOf_append (left right : List Component) :
    nanosOf (left ++ right) = nanosOf left + nanosOf right := by
  simp [nanosOf]

theorem secondsOf_singleton (c : Component) :
    secondsOf [c] = c.whole * c.scale.span + c.carried.1.toNat := by
  simp [secondsOf, Component.secs]

theorem nanosOf_singleton (c : Component) : nanosOf [c] = c.carried.2.toNat := by
  simp [nanosOf, Component.nanos]

/-- What comes first is in range if all is. -/
theorem InRange.front {left right : List Component} (inRange : InRange (left ++ right)) :
    InRange left := by
  obtain ⟨seconds, nanos⟩ := inRange
  rw [secondsOf_append] at seconds
  rw [nanosOf_append] at nanos
  exact ⟨by omega, by omega⟩

/-- The words hold the exact sums. -/
def Holds (sums : UInt64 × UInt64) (components : List Component) : Prop :=
  sums.1.toNat = secondsOf components ∧ sums.2.toNat = nanosOf components

/-- A component is added exactly if the sums with it are in range. -/
theorem add?_exact {sums : UInt64 × UInt64} {before : List Component} {last : Component}
    (held : Holds sums before) (inRange : InRange (before ++ [last])) :
    ∃ next, last.add? sums = some next ∧ Holds next (before ++ [last]) := by
  obtain ⟨seconds, nanos⟩ := inRange
  rw [secondsOf_append, secondsOf_singleton] at seconds
  rw [nanosOf_append, nanosOf_singleton] at nanos
  have whole : sums.1.toNat + last.whole * last.scale.span < UInt64.size := by
    rw [held.1]
    omega
  refine ⟨_, if_pos whole, ?_, ?_⟩
  · have word : (UInt64.ofNat (sums.1.toNat + last.whole * last.scale.span)).toNat =
        secondsOf before + last.whole * last.scale.span := by
      rw [UInt64.toNat_ofNat_of_lt' whole, held.1]
    rw [secondsOf_append, secondsOf_singleton, UInt64.toNat_add, word, Nat.add_assoc,
      Nat.mod_eq_of_lt seconds]
  · rw [nanosOf_append, nanosOf_singleton, UInt64.toNat_add, held.2, Nat.mod_eq_of_lt nanos]

/-- Components whose sums are in range are added up exactly. -/
theorem sums?_exact {components : List Component} (inRange : InRange components) :
    ∃ sums, sums? components = some sums ∧ Holds sums components := by
  induction components using List.reverseRecOn with
  | nil => exact ⟨(0, 0), rfl, rfl, rfl⟩
  | append_singleton before last inductionHypothesis =>
    obtain ⟨sums, added, held⟩ := inductionHypothesis inRange.front
    obtain ⟨next, nextAdded, nextHeld⟩ := add?_exact held inRange
    refine ⟨next, ?_, nextHeld⟩
    rw [sums?_concat, added]
    exact nextAdded

/-- Components whose sums are out of range are refused, unless a fraction leaves the range. -/
theorem sums?_refused {components : List Component} (outside : ¬InRange components)
    (checked : ¬FractionLeavesRange components) : sums? components = none := by
  induction components using List.reverseRecOn with
  | nil => exact absurd ⟨by decide, by decide⟩ outside
  | append_singleton before last inductionHypothesis =>
    rw [sums?_concat]
    by_cases inRange : InRange before
    · -- The last whole part is the one that leaves the range.
      obtain ⟨sums, added, held⟩ := sums?_exact inRange
      have leaves : ¬sums.1.toNat + last.whole * last.scale.span < UInt64.size := by
        intro fits
        rw [held.1] at fits
        exact checked ⟨before, last, [], rfl, inRange, fits, outside⟩
      rw [added]
      exact if_neg leaves
    · have checkedBefore : ¬FractionLeavesRange before := by
        rintro ⟨first, middle, rest, rfl, there⟩
        exact checked ⟨first, middle, rest ++ [last], by simp, there⟩
      rw [inductionHypothesis inRange checkedBefore]
      rfl

/-- Without fractions nothing leaves the range unchecked. -/
theorem checked_without_fractions {components : List Component}
    (plain : ∀ c ∈ components, c.fraction = none) :
    ¬FractionLeavesRange components ∧ ¬CarryLeavesRange components := by
  have nothing (c : Component) (member : c ∈ components) : c.carried = (0, 0) := by
    simp [Component.carried, plain c member]
  constructor
  · rintro ⟨before, last, after, rfl, inRange, whole, outside⟩
    apply outside
    have none : last.carried = (0, 0) := nothing last (by simp)
    constructor
    · rw [secondsOf_append, secondsOf_singleton, none]
      exact whole
    · rw [nanosOf_append, nanosOf_singleton, none]
      exact inRange.2
  · rintro ⟨inRange, carried⟩
    have noNanos : nanosOf components = 0 := by
      apply List.sum_eq_zero
      intro n member
      obtain ⟨c, there, rfl⟩ := List.mem_map.mp member
      simp [Component.nanos, nothing c there]
    rw [noNanos] at carried
    exact absurd inRange.1 (by omega)

/-- Two words give the duration of their sum if its seconds fit 64 bits. -/
theorem ofParts?_exact {sums : UInt64 × UInt64} {components : List Component}
    (held : Holds sums components)
    (fits : secondsOf components + nanosOf components / 1000000000 < UInt64.size) :
    ∃ d, ofParts? sums.1 sums.2 = some d ∧
      d.totalNanos = secondsOf components * 1000000000 + nanosOf components := by
  have there : sums.1.toNat + sums.2.toNat / 1000000000 < UInt64.size := by
    rw [held.1, held.2]
    exact fits
  refine ⟨_, if_pos there, ?_⟩
  have carried : (sums.1 + sums.2 / 1000000000).toNat =
      secondsOf components + nanosOf components / 1000000000 := by
    rw [UInt64.toNat_add, UInt64.toNat_div]
    change (sums.1.toNat + sums.2.toNat / 1000000000) % UInt64.size = _
    rw [Nat.mod_eq_of_lt there, held.1, held.2]
  simp only [totalNanos, carried, held.2]
  omega

/-! ## Texts -/

/-- A text that is no written duration is reported as one that cannot be read. -/
theorem readDuration_malformed {text : String} (none : ∀ components, ¬Denotes text components) :
    readDuration text = .error (.unreadable (.duration text)) := by
  unfold readDuration
  rw [parse_malformed none]

/-- A written duration that can be represented is read as it is written. -/
theorem readDuration_exact {text : String} {components : List Component}
    (denoted : Denotes text components) (inRange : InRange components)
    (fits : secondsOf components + nanosOf components / 1000000000 < UInt64.size) :
    ∃ d, readDuration text = .ok d ∧
      d.totalNanos = secondsOf components * 1000000000 + nanosOf components := by
  obtain ⟨sums, added, held⟩ := sums?_exact inRange
  obtain ⟨d, parts, total⟩ := ofParts?_exact held fits
  refine ⟨d, ?_, total⟩
  unfold readDuration
  rw [parse_denoted denoted, added]
  simp [ofSums, parts]

/-- A written duration is too long if the last carry leaves the range. -/
theorem readDuration_tooLong {text : String} {components : List Component}
    (denoted : Denotes text components) (leaves : CarryLeavesRange components) :
    readDuration text = .error .tooLong := by
  obtain ⟨inRange, carried⟩ := leaves
  obtain ⟨sums, added, held⟩ := sums?_exact inRange
  have outside : ¬sums.1.toNat + sums.2.toNat / 1000000000 < UInt64.size := by
    rw [held.1, held.2]
    omega
  unfold readDuration
  rw [parse_denoted denoted, added]
  simp [ofSums, ofParts?, outside]

/-- A written duration is reported as one that cannot be read if a whole part leaves the range. -/
theorem readDuration_refused {text : String} {components : List Component}
    (denoted : Denotes text components) (outside : ¬InRange components)
    (checked : ¬FractionLeavesRange components) :
    readDuration text = .error (.unreadable (.duration text)) := by
  unfold readDuration
  rw [parse_denoted denoted, sums?_refused outside checked]
  rfl

/-! ## Overflow -/

/-- Every text is read exactly or reported as one that cannot be read, unless its fractions leave
the range. It is read exactly if the sums are in range, the last carry included. It is reported if
it is no written duration, or if a whole part leaves the range. A last carry out of range is an
overflow. Components without fractions never lead to one. -/
theorem read_exactly_unless_fractions_overflow (text : String) :
    ((∀ components, ¬Denotes text components) →
      readDuration text = .error (.unreadable (.duration text))) ∧
    ∀ components, Denotes text components →
      (InRange components → ¬CarryLeavesRange components →
        ∃ d, readDuration text = .ok d ∧
          d.totalNanos = secondsOf components * 1000000000 + nanosOf components) ∧
      (¬InRange components → ¬FractionLeavesRange components →
        readDuration text = .error (.unreadable (.duration text))) ∧
      (CarryLeavesRange components → readDuration text = .error .tooLong) ∧
      ((∀ c ∈ components, c.fraction = none) →
        ¬FractionLeavesRange components ∧ ¬CarryLeavesRange components) := by
  refine ⟨readDuration_malformed, fun components denoted => ⟨?_, ?_, ?_, ?_⟩⟩
  · intro inRange noCarry
    apply readDuration_exact denoted inRange
    by_contra carried
    exact noCarry ⟨inRange, Nat.le_of_not_lt carried⟩
  · exact readDuration_refused denoted
  · exact readDuration_tooLong denoted
  · exact checked_without_fractions

/-- The last second that fits 64 bits, and nine tenths of it. -/
def lastSecond : Component where
  whole := 18446744073709551615
  fraction := some ['9']
  scale := .seconds

/-- The last second is read with a fraction. -/
theorem last_second_read :
    Denotes "PT18446744073709551615.9S" [lastSecond] ∧
      ∃ d, readDuration "PT18446744073709551615.9S" = .ok d ∧
        d.totalNanos = 18446744073709551615900000000 := by
  have numeral := Numeral.withFraction (n := 18446744073709551615) (by decide) (.inl rfl)
    (List.cons_ne_nil '9' []) (by simp)
  have digits : Nat.toDigits 10 18446744073709551615 = "18446744073709551615".toList := by cbv
  rw [digits] at numeral
  have denoted : Denotes "PT18446744073709551615.9S" [lastSecond] := by
    simpa [lastSecond] using denotes_seconds numeral
  refine ⟨denoted, ?_⟩
  obtain ⟨-, written⟩ := read_exactly_unless_fractions_overflow "PT18446744073709551615.9S"
  have inRange : InRange [lastSecond] := ⟨by decide, by decide⟩
  have noCarry : ¬CarryLeavesRange [lastSecond] := fun leaves => absurd leaves.2 (by decide)
  exact (written _ denoted).1 inRange noCarry

/-- Nine tenths of a second more are neither read nor reported as unreadable. -/
theorem fractions_overflow :
    ¬∀ text, (∃ d, readDuration text = .ok d) ∨
      readDuration text = .error (.unreadable (.duration text)) := by
  intro safe
  have overflow : readDuration "PT18446744073709551615.9S0.9S" = .error .tooLong := by cbv
  have outcome := safe "PT18446744073709551615.9S0.9S"
  rw [overflow] at outcome
  simp at outcome

end LiveConfig.Duration
