import LiveConfig.Proofs.DurationLanguage
import LiveConfig.Value.Native

/-!
# Rendered durations

A duration is rendered as a number of seconds. Its fraction has the nine digits of the nanoseconds
without the zeros at their end. Cut off behind the ninth digit it is these nanoseconds again, so
every duration is read back from what it renders as, the longest one included.
-/

namespace LiveConfig.Duration

/-- Zeros in front of a number change nothing in it. -/
theorem ofDigitChars_padded (width n : Nat) :
    Nat.ofDigitChars 10 (Decimal.padded width n) 0 = n := by
  unfold Decimal.padded
  rw [Nat.ofDigitChars_append, Nat.ofDigitChars_replicate_zero, Nat.mul_zero,
    Nat.ofDigitChars_ten_toDigits]

/-- A number below a power of ten is padded to as many digits. -/
theorem length_padded {width n : Nat} (positive : 0 < width) (below : n < 10 ^ width) :
    (Decimal.padded width n).length = width := by
  have digits := (Nat.length_toDigits_le_iff (by decide) positive).mpr below
  unfold Decimal.padded
  rw [List.length_append, List.length_replicate, Nat.sub_add_cancel digits]

theorem isDigit_of_mem_padded {width n : Nat} {c : Char} (member : c ∈ Decimal.padded width n) :
    c.isDigit := by
  unfold Decimal.padded at member
  rcases List.mem_append.mp member with zero | digit
  · rw [List.eq_of_mem_replicate zero]
    rfl
  · exact (toDigits_ten n).1 c digit

/-- The digits of a fraction lack zeros at their end, and nothing else. -/
theorem fractionDigits_zeros (places fraction : Nat) :
    ∃ count, Decimal.padded places fraction =
      fractionDigits places fraction ++ List.replicate count '0' := by
  let zeros := (Decimal.padded places fraction).reverse.takeWhile (· == '0')
  have all : zeros = List.replicate zeros.length '0' := by
    apply List.eq_replicate_of_mem
    intro c member
    simpa using List.mem_takeWhile_imp member
  refine ⟨zeros.length, ?_⟩
  calc Decimal.padded places fraction
      = (zeros ++ (Decimal.padded places fraction).reverse.dropWhile (· == '0')).reverse := by
        rw [List.takeWhile_append_dropWhile, List.reverse_reverse]
    _ = fractionDigits places fraction ++ zeros.reverse := List.reverse_append
    _ = fractionDigits places fraction ++ List.replicate zeros.length '0' := by
        rw [← List.reverse_replicate, ← all]

/-- The digits of nanoseconds are cut off to these nanoseconds. -/
theorem cutOff_fractionDigits {nanos : Nat} (below : nanos < 1000000000) :
    cutOff (fractionDigits 9 nanos) = nanos := by
  obtain ⟨count, padded⟩ := fractionDigits_zeros 9 nanos
  have value := ofDigitChars_padded 9 nanos
  have length := @length_padded 9 nanos (by decide) below
  rw [padded, ofDigitChars_zeros] at value
  rw [padded, List.length_append, List.length_replicate] at length
  have places : 1000000000 = 10 ^ count * 10 ^ (fractionDigits 9 nanos).length := by
    rw [← pow_add, Nat.add_comm, length]
    rfl
  unfold cutOff
  rw [places, ← Nat.mul_assoc, Nat.mul_div_cancel _ (by positivity), Nat.mul_comm, value]

/-- Nanoseconds that are not zero have digits. -/
theorem fractionDigits_ne_nil {nanos : Nat} (some : nanos ≠ 0) : fractionDigits 9 nanos ≠ [] := by
  intro empty
  obtain ⟨count, padded⟩ := fractionDigits_zeros 9 nanos
  have value := ofDigitChars_padded 9 nanos
  rw [padded, ofDigitChars_zeros, empty] at value
  exact some value.symm

theorem isDigit_of_mem_fractionDigits {places fraction : Nat} {c : Char}
    (member : c ∈ fractionDigits places fraction) : c.isDigit := by
  obtain ⟨count, padded⟩ := fractionDigits_zeros places fraction
  apply @isDigit_of_mem_padded places fraction
  rw [padded]
  exact List.mem_append_left _ member

/-! ## Durations -/

/-- The length of a duration tells it from all others. -/
theorem totalNanos_injective : Function.Injective totalNanos := by
  rintro ⟨secs, nanos, below⟩ ⟨otherSecs, otherNanos, otherBelow⟩ same
  simp only [totalNanos] at same
  have sameSecs : secs = otherSecs := UInt64.toNat_inj.mp (by omega)
  have sameNanos : nanos = otherNanos := by omega
  subst sameSecs sameNanos
  rfl

/-- The longest duration is a nanosecond short of the seconds that 64 bits count. -/
theorem totalNanos_lt (d : Duration) : d.totalNanos < UInt64.size * 1000000000 := by
  have secs := d.secs.toNat_lt_size
  have nanos := d.nanos_lt
  unfold totalNanos
  omega

/-- A rendered duration denotes the seconds and the fraction of a second that it has. -/
theorem denotes_render (d : Duration) :
    ∃ c : Component, Denotes d.render [c] ∧ c.OfSeconds ∧ c.duration = d.totalNanos := by
  have fits := d.secs.toNat_lt_size
  by_cases zero : d.nanos = 0
  · refine ⟨⟨d.secs.toNat, none, .seconds⟩, ?_, ?_, ?_⟩
    · unfold render
      rw [if_pos zero]
      exact denotes_seconds (.ofNat fits)
    · rintro digits ⟨⟩
    · simp [Component.duration, Scale.span, totalNanos, zero]
  · refine ⟨⟨d.secs.toNat, some (fractionDigits 9 d.nanos), .seconds⟩, ?_, ?_, ?_⟩
    · have numeral := Numeral.withFraction fits (.inl rfl) (fractionDigits_ne_nil zero)
        fun c member => isDigit_of_mem_fractionDigits member
      have text : d.render = String.ofList ('P' :: 'T' ::
          ((Nat.toDigits 10 d.secs.toNat ++ '.' :: fractionDigits 9 d.nanos) ++ ['S'])) := by
        unfold render
        rw [if_neg zero]
        simp
      rw [text]
      exact denotes_seconds numeral
    · rintro digits ⟨⟩
      exact ⟨rfl, fun c member => isDigit_of_mem_fractionDigits member⟩
    · simp [Component.duration, Scale.span, totalNanos, cutOff_fractionDigits d.nanos_lt]

/-- A rendered duration is read back. -/
theorem readDuration_render (d : Duration) : readDuration d.render = .ok d := by
  obtain ⟨c, denoted, ofSeconds, same⟩ := denotes_render d
  have total : lengthOf [c] = d.totalNanos := by simp [lengthOf, same]
  obtain ⟨back, read, backTotal⟩ := denoted.read_exactly (by simpa using ofSeconds) (by simp)
    (total ▸ d.totalNanos_lt)
  rw [read, totalNanos_injective (backTotal.trans total)]

/-- Every duration is read back from what it renders as, the value made from it gives it back, and
no two durations are rendered alike. -/
theorem durations_round_trip :
    (∀ d : Duration, readDuration d.render = .ok d) ∧
      (∀ d : Duration, (Native.duration d).toValue.duration? = some d ∧
        ∀ vars, (Native.duration d).toValue.extract vars = .ok (.duration d)) ∧
      Function.Injective render := by
  refine ⟨readDuration_render, fun d => ⟨?_, fun vars => ?_⟩, ?_⟩
  · change (readDuration d.render).toOption = some d
    rw [readDuration_render d]
    rfl
  · change (readDuration d.render).map Native.duration = .ok (.duration d)
    rw [readDuration_render d]
    rfl
  · intro d other same
    have read := readDuration_render d
    rw [same, readDuration_render other] at read
    exact (Except.ok.inj read).symm

end LiveConfig.Duration
