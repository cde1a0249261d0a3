import LiveConfig.Error
import Mathlib

/-!
# Written durations

A written duration is a `P` and components behind it, blanks around them aside. A component is a
number with the letter of a unit. Among the components a time marker may stand, which decides the
units that their letters name.

`Written` says so without reading anything. Reading a text that is written so adds its components
up, one after the other (`read_written`), and nothing else is read (`written_of_read`). What the
sums come to, and whether they can be represented, is no part of this.
-/

namespace LiveConfig.Duration

namespace Scale

/-- The seconds in one unit, by the units below it. -/
def span : Scale → Nat
  | .years => 365 * (24 * 3600)
  | .months => 30 * (24 * 3600)
  | .weeks => 7 * (24 * 3600)
  | .days => 24 * 3600
  | .hours => 60 * 60
  | .minutes => 60
  | .seconds => 1

/-- Whether a unit is named behind the time marker. -/
def ofTime : Scale → Bool
  | .years | .months | .weeks | .days => false
  | .hours | .minutes | .seconds => true

/-- The letter of a unit. It is written in either case. -/
def letter : Scale → Char
  | .years => 'Y'
  | .months => 'M'
  | .weeks => 'W'
  | .days => 'D'
  | .hours => 'H'
  | .minutes => 'M'
  | .seconds => 'S'

theorem length_span (scale : Scale) : scale.length.toNat = scale.span := by
  cases scale <;> rfl

/-- A letter names the one unit on its side of the marker that has it. -/
theorem ofLetter?_iff (inTime : Bool) (c : Char) (scale : Scale) :
    ofLetter? inTime c = some scale ↔ scale.ofTime = inTime ∧ c.toUpper = scale.letter := by
  unfold ofLetter?
  generalize c.toUpper = upper
  constructor
  · intro named
    split at named <;> cases named <;> exact ⟨rfl, rfl⟩
  · rintro ⟨rfl, rfl⟩
    cases scale <;> rfl

end Scale

/-- Whether a character belongs to a number. -/
def isNumeral (c : Char) : Bool :=
  c.isDigit || c = '.' || c = ','

/-- How a number is written: by digits that fit 64 bits, or by such digits, if any, and one digit at
least behind a point or a comma. -/
inductive Numeral : List Char → Nat → Option (List Char) → Prop
  | whole {digits : List Char} (nonempty : digits ≠ []) (all : ∀ c ∈ digits, c.isDigit)
      (fits : Nat.ofDigitChars 10 digits 0 < UInt64.size) :
      Numeral digits (Nat.ofDigitChars 10 digits 0) none
  | fraction {before after : List Char} {separator : Char} (all : ∀ c ∈ before, c.isDigit)
      (fits : Nat.ofDigitChars 10 before 0 < UInt64.size)
      (apart : separator = '.' ∨ separator = ',') (nonempty : after ≠ [])
      (allAfter : ∀ c ∈ after, c.isDigit) :
      Numeral (before ++ separator :: after) (Nat.ofDigitChars 10 before 0) (some after)

/-- A number with a unit. -/
structure Component where
  whole : Nat
  /-- The digits of the fraction, if there is one. -/
  fraction : Option (List Char)
  scale : Scale

/-- How components are written one after the other, and whether the time marker has been. -/
inductive Written : List Char → Bool → List Component → Prop
  | nothing : Written [] false []
  | component {text number : List Char} {inTime : Bool} {components : List Component} {c : Char}
      {last : Component} (before : Written text inTime components)
      (numeral : Numeral number last.whole last.fraction) (side : last.scale.ofTime = inTime)
      (named : c.toUpper = last.scale.letter) :
      Written (text ++ (number ++ [c])) inTime (components ++ [last])
  | marker {text : List Char} {components : List Component} {c : Char}
      (before : Written text false components) (marks : c = 'T' ∨ c = 't') :
      Written (text ++ [c]) true components

/-- A text is a written duration with the given components, of which there is one at least. -/
def Denotes (text : String) (components : List Component) : Prop :=
  components ≠ [] ∧ ∃ p body inTime, Text.trimChars text.toList = p :: body ∧
    (p = 'P' ∨ p = 'p') ∧ Written body inTime components

/-- A number of seconds alone is a written duration. -/
theorem denotes_seconds {number : List Char} {whole : Nat} {fraction : Option (List Char)}
    (numeral : Numeral number whole fraction) :
    Denotes (String.ofList ('P' :: 'T' :: (number ++ ['S']))) [⟨whole, fraction, .seconds⟩] := by
  refine ⟨by simp, 'P', 'T' :: (number ++ ['S']), true, ?_, .inl rfl, ?_⟩
  · rw [String.toList_ofList]
    exact Text.trimChars_of_ends ('T' :: number) (by decide) (by decide)
  · exact .component (.marker .nothing (.inl rfl)) numeral rfl rfl

/-! ## Numbers -/

/-- A comma stands for a point. -/
def point (c : Char) : Char :=
  if c = ',' then '.' else c

/-- A digit belongs to a number, and separates nothing in it. -/
theorem digit_plain {c : Char} (digit : c.isDigit) : isNumeral c ∧ c ≠ '.' ∧ point c = c := by
  refine ⟨by simp [isNumeral, digit], ?_, if_neg ?_⟩
  · rintro rfl
    contradiction
  · rintro rfl
    contradiction

/-- What belongs to a number and separates nothing in it is a digit. -/
theorem plain_digit {c : Char} (numeral : isNumeral c) (plain : point c ≠ '.') : c.isDigit := by
  have notComma : c ≠ ',' := by
    rintro rfl
    exact plain rfl
  have notPoint : c ≠ '.' := by
    rintro rfl
    exact plain rfl
  simpa [isNumeral, notComma, notPoint] using numeral

/-- Digits are read as they are written. -/
theorem map_point_digits {digits : List Char} (all : ∀ c ∈ digits, c.isDigit) :
    digits.map point = digits ∧ '.' ∉ digits := by
  constructor
  · rw [List.map_congr_left fun c member => (digit_plain (all c member)).2.2, List.map_id']
  · intro member
    exact (digit_plain (all '.' member)).2.1 rfl

/-- A run of a number without separators consists of digits. -/
theorem digits_of_map_point {run : List Char} (numeral : ∀ c ∈ run, isNumeral c)
    (plain : '.' ∉ run.map point) : (∀ c ∈ run, c.isDigit) ∧ run.map point = run := by
  have all (c : Char) (member : c ∈ run) : c.isDigit := by
    apply plain_digit (numeral c member)
    intro separates
    exact plain (List.mem_map.mpr ⟨c, member, separates⟩)
  exact ⟨all, (map_point_digits all).1⟩

/-- Only a comma or a point is read as a point. -/
theorem point_eq_iff (c : Char) : point c = '.' ↔ c = '.' ∨ c = ',' := by
  unfold point
  by_cases comma : c = ','
  · simp [comma]
  · simp [comma]

/-- Digits are read as the number they denote if it fits 64 bits. -/
theorem readUInt64?_iff (cs : List Char) (n : UInt64) :
    Decimal.readUInt64? cs = some n ↔ cs ≠ [] ∧ (∀ c ∈ cs, c.isDigit) ∧
      Nat.ofDigitChars 10 cs 0 < UInt64.size ∧ n.toNat = Nat.ofDigitChars 10 cs 0 := by
  unfold Decimal.readUInt64? Decimal.readNat?
  by_cases digits : cs ≠ [] ∧ cs.all Char.isDigit
  · rw [if_pos digits, Option.bind_some]
    have all : ∀ c ∈ cs, c.isDigit := List.all_eq_true.mp digits.2
    by_cases fits : Nat.ofDigitChars 10 cs 0 < UInt64.size
    · have held : (UInt64.ofNat (Nat.ofDigitChars 10 cs 0)).toNat = Nat.ofDigitChars 10 cs 0 :=
        UInt64.toNat_ofNat_of_lt fits
      rw [if_pos fits, Option.some.injEq, ← UInt64.toNat_inj, held]
      constructor
      · intro same
        exact ⟨digits.1, all, fits, same.symm⟩
      · rintro ⟨-, -, -, same⟩
        exact same.symm
    · simp [fits]
  · rw [if_neg digits]
    constructor
    · intro read
      contradiction
    · rintro ⟨nonempty, all, -⟩
      exact absurd ⟨nonempty, List.all_eq_true.mpr all⟩ digits

/-- The whole part before a separator, zero if it is missing. -/
def wholePart? (before : List Char) : Option UInt64 :=
  if before.isEmpty then some 0 else Decimal.readUInt64? before

theorem wholePart?_iff (before : List Char) (n : UInt64) :
    wholePart? before = some n ↔ (∀ c ∈ before, c.isDigit) ∧
      Nat.ofDigitChars 10 before 0 < UInt64.size ∧ n.toNat = Nat.ofDigitChars 10 before 0 := by
  cases before with
  | nil =>
    have zero : some (0 : UInt64) = some n ↔ n.toNat = 0 := by
      rw [Option.some.injEq, ← UInt64.toNat_inj, UInt64.toNat_zero, eq_comm]
    simp [wholePart?, zero, UInt64.size]
  | cons c rest =>
    have read : wholePart? (c :: rest) = Decimal.readUInt64? (c :: rest) := rfl
    rw [read, readUInt64?_iff]
    exact and_iff_right (List.cons_ne_nil c rest)

/-- Without a separator all of a number is its whole part. -/
theorem readNumber?_plain {number : List Char} (plain : '.' ∉ number) :
    readNumber? number = (Decimal.readUInt64? number).map (·, none) := by
  unfold readNumber?
  rw [Text.splitFirst_eq_none_iff.mpr plain]

/-- The first separator ends the whole part, and no other may follow it. -/
theorem readNumber?_separated {before after : List Char} (plain : '.' ∉ before) :
    readNumber? (before ++ '.' :: after) = (wholePart? before).bind fun whole =>
      if after = [] ∨ '.' ∈ after then none else some (whole, some after) := by
  unfold readNumber? wholePart?
  rw [Text.splitFirst_eq_some_iff.mpr ⟨rfl, plain⟩]
  cases before <;> simp

/-- A number is read exactly if it is written as one, and as the number that is written. -/
theorem readNumber?_iff {number : List Char} (numeral : ∀ c ∈ number, isNumeral c)
    (whole : UInt64) (fraction : Option (List Char)) :
    readNumber? (number.map point) = some (whole, fraction) ↔
      Numeral number whole.toNat fraction := by
  constructor
  · intro read
    cases split : Text.splitFirst '.' (number.map point) with
    | none =>
      have plain := Text.splitFirst_eq_none_iff.mp split
      obtain ⟨all, same⟩ := digits_of_map_point numeral plain
      rw [readNumber?_plain plain, same] at read
      obtain ⟨n, value, parts⟩ := Option.map_eq_some_iff.mp read
      obtain ⟨rfl, rfl⟩ := Prod.mk.inj parts
      obtain ⟨nonempty, -, fits, value⟩ := (readUInt64?_iff ..).mp value
      rw [value]
      exact .whole nonempty all fits
    | some parts =>
      obtain ⟨joined, plain⟩ := Text.splitFirst_eq_some_iff.mp split
      rw [joined, readNumber?_separated plain] at read
      obtain ⟨n, value, read⟩ := Option.bind_eq_some_iff.mp read
      obtain ⟨front, rest, rfl, beforeRead, back⟩ := List.map_eq_append_iff.mp joined
      obtain ⟨separator, behind, rfl, separates, afterRead⟩ := List.map_eq_cons_iff.mp back
      rw [← afterRead] at read
      rw [← beforeRead] at plain value
      by_cases bad : behind.map point = [] ∨ '.' ∈ behind.map point
      · rw [if_pos bad] at read
        contradiction
      · rw [if_neg bad] at read
        rw [not_or] at bad
        obtain ⟨rfl, rfl⟩ := Prod.mk.inj (Option.some.inj read)
        obtain ⟨all, same⟩ := digits_of_map_point
          (fun c member => numeral c (List.mem_append_left _ member)) plain
        obtain ⟨allBehind, sameBehind⟩ := digits_of_map_point
          (fun c member => numeral c (List.mem_append_right _ (List.mem_cons_of_mem _ member)))
          bad.2
        rw [same] at value
        obtain ⟨-, fits, value⟩ := (wholePart?_iff ..).mp value
        rw [value, sameBehind]
        exact .fraction all fits ((point_eq_iff _).mp separates) (sameBehind ▸ bad.1) allBehind
  · intro written
    generalize value : whole.toNat = n at written
    cases written with
    | whole nonempty all fits =>
      obtain ⟨same, plain⟩ := map_point_digits all
      rw [same, readNumber?_plain plain, (readUInt64?_iff ..).mpr ⟨nonempty, all, fits, value⟩]
      rfl
    | @fraction before after separator all fits apart nonempty allAfter =>
      obtain ⟨same, plain⟩ := map_point_digits all
      obtain ⟨sameAfter, plainAfter⟩ := map_point_digits allAfter
      have separates := (point_eq_iff separator).mpr apart
      rw [List.map_append, List.map_cons, same, sameAfter, separates, readNumber?_separated plain,
        (wholePart?_iff ..).mpr ⟨all, fits, value⟩, Option.bind_some,
        if_neg (not_or.mpr ⟨nonempty, plainAfter⟩)]

/-- What is written as a number is a run of digits and separators, and not empty. -/
theorem Numeral.run {number : List Char} {whole : Nat} {fraction : Option (List Char)}
    (written : Numeral number whole fraction) :
    number ≠ [] ∧ (∀ c ∈ number, isNumeral c) ∧ whole < UInt64.size := by
  cases written with
  | whole nonempty all fits =>
    exact ⟨nonempty, fun c member => (digit_plain (all c member)).1, fits⟩
  | @fraction before after separator all fits apart nonempty allAfter =>
    refine ⟨by simp, ?_, fits⟩
    intro c member
    rcases List.mem_append.mp member with front | back
    · exact (digit_plain (all c front)).1
    · rcases List.mem_cons.mp back with rfl | behind
      · rcases apart with rfl | rfl <;> rfl
      · exact (digit_plain (allAfter c behind)).1

/-- The digits of a number are digits that stand for it. -/
theorem toDigits_ten (n : Nat) :
    (∀ c ∈ Nat.toDigits 10 n, c.isDigit) ∧ Nat.ofDigitChars 10 (Nat.toDigits 10 n) 0 = n :=
  ⟨fun _ member => Nat.isDigit_of_mem_toDigits (by decide) (by decide) member,
    Nat.ofDigitChars_ten_toDigits⟩

/-- A number that fits 64 bits is written by its digits. -/
theorem Numeral.ofNat {n : Nat} (fits : n < UInt64.size) :
    Numeral (Nat.toDigits 10 n) n none := by
  obtain ⟨all, value⟩ := toDigits_ten n
  have written := Numeral.whole Nat.toDigits_ne_nil all (value.symm ▸ fits)
  rwa [value] at written

/-- It may have a fraction behind it. -/
theorem Numeral.withFraction {n : Nat} (fits : n < UInt64.size) {separator : Char}
    (apart : separator = '.' ∨ separator = ',') {after : List Char} (nonempty : after ≠ [])
    (allAfter : ∀ c ∈ after, c.isDigit) :
    Numeral (Nat.toDigits 10 n ++ separator :: after) n (some after) := by
  obtain ⟨all, value⟩ := toDigits_ten n
  have written := Numeral.fraction all (value.symm ▸ fits) apart nonempty allAfter
  rwa [value] at written

/-! ## Components -/

/-- The seconds and the nanoseconds that a fraction is read as. -/
def Component.carried (c : Component) : UInt64 × UInt64 :=
  match c.fraction with
  | none => (0, 0)
  | some digits =>
    if c.scale = .seconds then (0, secondFraction digits) else scaledFraction digits c.scale

/-- Adds a component to sums of seconds and nanoseconds. The whole part must leave the seconds in
range; what a fraction adds is not checked. -/
def Component.add? (sums : UInt64 × UInt64) (c : Component) : Option (UInt64 × UInt64) :=
  let total := sums.1.toNat + c.whole * c.scale.span
  if total < UInt64.size then
    some (UInt64.ofNat total + c.carried.1, sums.2 + c.carried.2)
  else none

/-- The sums of seconds and nanoseconds, with components added from the first one on. -/
def sums? (components : List Component) : Option (UInt64 × UInt64) :=
  components.foldlM Component.add? (0, 0)

/-- A reading between two components. -/
def Reading.between (inTime anyComponent : Bool) (sums : UInt64 × UInt64) : Reading where
  secs := sums.1
  nanos := sums.2
  inTime
  anyComponent

/-- A number waits for its unit. -/
def Reading.pending (r : Reading) (number : List Char) : Reading :=
  { r with number := r.number ++ number.map point }

/-- A character of a number is kept. -/
theorem step?_numeral (r : Reading) {c : Char} (numeral : isNumeral c) :
    r.step? c = some (r.pending [c]) := by
  unfold Reading.step? Reading.pending point
  simp only [isNumeral, Bool.or_eq_true, decide_eq_true_eq] at numeral
  by_cases comma : c = ','
  · simp [comma]
  · have kept : (c.isDigit || c = '.') = true := by simpa [comma] using numeral
    simp only [kept, if_true, comma, if_false, List.map_cons, List.map_nil]

/-- A number is kept until its unit comes. -/
theorem foldlM_numeral (number : List Char) (numeral : ∀ c ∈ number, isNumeral c) (r : Reading) :
    number.foldlM Reading.step? r = some (r.pending number) := by
  induction number generalizing r with
  | nil => simp [Reading.pending]
  | cons c rest inductionHypothesis =>
    have first := step?_numeral r (numeral c List.mem_cons_self)
    have others := inductionHypothesis (fun d member => numeral d (List.mem_cons_of_mem c member))
    rw [List.foldlM_cons, first]
    simp [others, Reading.pending]

/-- A character that belongs to no number marks the time or ends a component. -/
theorem step?_other (r : Reading) {c : Char} (other : ¬isNumeral c) :
    r.step? c =
      if c = 'T' ∨ c = 't' then
        if r.inTime || !r.number.isEmpty then none else some { r with inTime := true }
      else if r.number.isEmpty then none
      else (Scale.ofLetter? r.inTime c).bind r.close? := by
  simp only [isNumeral, Bool.or_eq_true, decide_eq_true_eq, not_or] at other
  obtain ⟨⟨digit, isPoint⟩, comma⟩ := other
  simp [Reading.step?, digit, isPoint, comma]

/-- Upper and lower case are no matter to a digit. -/
theorem toUpper_digit {c : Char} (digit : c.isDigit) : c.toUpper = c := by
  unfold Char.toUpper
  apply dif_neg
  rintro ⟨lower, -⟩
  simp only [Char.isDigit, Bool.and_eq_true, decide_eq_true_eq] at digit
  have upper : c.val ≤ '9'.val := digit.2
  exact absurd (UInt32.le_trans lower upper) (by decide)

/-- The letter of a unit belongs to no number and is no marker. -/
theorem Scale.letter_other {c : Char} {scale : Scale} (named : c.toUpper = scale.letter) :
    ¬isNumeral c ∧ ¬(c = 'T' ∨ c = 't') := by
  constructor
  · intro numeral
    simp only [isNumeral, Bool.or_eq_true, decide_eq_true_eq] at numeral
    rcases numeral with (digit | rfl) | rfl
    · rw [toUpper_digit digit] at named
      rw [named] at digit
      cases scale <;> contradiction
    · cases scale <;> contradiction
    · cases scale <;> contradiction
  · rintro (rfl | rfl) <;> cases scale <;> contradiction

/-- A unit ends the number that waits for it, and the component is added to the sums. -/
theorem close?_pending (inTime any : Bool) (sums : UInt64 × UInt64) {number : List Char}
    {last : Component} (numeral : Numeral number last.whole last.fraction) :
    ((Reading.between inTime any sums).pending number).close? last.scale =
      (last.add? sums).map (Reading.between inTime true) := by
  obtain ⟨-, run, fits⟩ := numeral.run
  obtain ⟨whole, held⟩ : ∃ whole : UInt64, whole.toNat = last.whole :=
    ⟨UInt64.ofNat last.whole, UInt64.toNat_ofNat_of_lt fits⟩
  have read : readNumber? ((Reading.between inTime any sums).pending number).number =
      some (whole, last.fraction) := by
    rw [← held] at numeral
    exact (readNumber?_iff run whole last.fraction).mpr numeral
  unfold Reading.close? Component.add?
  simp only [read, Option.bind_eq_bind, Option.bind_some, Scale.length_span, held]
  by_cases inRange : sums.1.toNat + last.whole * last.scale.span < UInt64.size
  · rw [if_pos inRange, Option.map_some]
    have there : ((Reading.between inTime any sums).pending number).secs.toNat +
        last.whole * last.scale.span < UInt64.size := inRange
    rw [if_pos there]
    rfl
  · rw [if_neg inRange]
    exact if_neg inRange

/-- A number and the letter of a unit add a component. -/
theorem read_component (inTime any : Bool) (sums : UInt64 × UInt64) {number : List Char} {c : Char}
    {last : Component} (numeral : Numeral number last.whole last.fraction)
    (side : last.scale.ofTime = inTime) (named : c.toUpper = last.scale.letter) :
    (number ++ [c]).foldlM Reading.step? (.between inTime any sums) =
      (last.add? sums).map (Reading.between inTime true) := by
  obtain ⟨nonempty, run, -⟩ := numeral.run
  obtain ⟨other, noMarker⟩ := Scale.letter_other named
  have unit := (Scale.ofLetter?_iff inTime c last.scale).mpr ⟨side, named⟩
  have waiting : ((Reading.between inTime any sums).pending number).number ≠ [] := by
    simpa [Reading.pending, Reading.between] using nonempty
  have closed : ((Reading.between inTime any sums).pending number).step? c =
      ((Reading.between inTime any sums).pending number).close? last.scale := by
    rw [step?_other _ other, if_neg noMarker, if_neg (by simpa using waiting)]
    exact congrArg (Option.bind · _) unit
  rw [List.foldlM_append, foldlM_numeral number run, Option.bind_eq_bind, Option.bind_some,
    List.foldlM_cons, closed, close?_pending inTime any sums numeral]
  simp only [List.foldlM_nil, Option.pure_def, Option.bind_eq_bind, Option.bind_fun_some]

/-- A time marker changes the side and adds nothing. -/
theorem step?_marker (any : Bool) (sums : UInt64 × UInt64) {c : Char} (marks : c = 'T' ∨ c = 't') :
    (Reading.between false any sums).step? c = some (.between true any sums) := by
  have other : ¬isNumeral c := by rcases marks with rfl | rfl <;> decide
  rw [step?_other _ other, if_pos marks]
  rfl

/-! ## Texts -/

/-- The last component is added to the sums of those before it. -/
theorem sums?_concat (components : List Component) (last : Component) :
    sums? (components ++ [last]) = (sums? components).bind fun sums => last.add? sums := by
  simp [sums?, List.foldlM_append]

/-- What is written as components is read as their sums. -/
theorem read_written {text : List Char} {inTime : Bool} {components : List Component}
    (written : Written text inTime components) :
    text.foldlM Reading.step? {} =
      (sums? components).map (Reading.between inTime !components.isEmpty) := by
  induction written with
  | nothing => rfl
  | @component text number inTime components c last before numeral side named inductionHypothesis =>
    rw [List.foldlM_append, inductionHypothesis, sums?_concat]
    have any : (!(components ++ [last]).isEmpty) = true := by simp
    rw [any]
    cases sums? components with
    | none => rfl
    | some sums => exact read_component inTime _ sums numeral side named
  | @marker text components c before marks inductionHypothesis =>
    rw [List.foldlM_append, inductionHypothesis]
    cases sums? components with
    | none => rfl
    | some sums =>
      rw [Option.map_some, Option.map_some, Option.bind_eq_bind, Option.bind_some,
        List.foldlM_cons, step?_marker _ sums marks]
      rfl

/-- What has been read at some point: components that are written so, and a number that waits for
its unit. -/
def ReadSoFar (text : List Char) (r : Reading) : Prop :=
  ∃ done number components, text = done ++ number ∧ Written done r.inTime components ∧
    (∀ c ∈ number, isNumeral c) ∧ r.number = number.map point ∧
    (r.anyComponent = true → components ≠ [])

/-- A unit is only read behind a number that is written as one. -/
theorem close?_some {r closed : Reading} {number : List Char} {scale : Scale}
    (run : ∀ c ∈ number, isNumeral c) (waiting : r.number = number.map point)
    (read : r.close? scale = some closed) :
    closed.number = [] ∧ closed.inTime = r.inTime ∧
      ∃ whole fraction, Numeral number whole fraction := by
  unfold Reading.close? at read
  obtain ⟨⟨whole, fraction⟩, value, added⟩ := Option.bind_eq_some_iff.mp read
  rw [waiting, readNumber?_iff run] at value
  simp only at added
  split at added
  · obtain rfl := Option.some.inj added
    exact ⟨rfl, rfl, whole.toNat, fraction, value⟩
  · contradiction

/-- Every character that is read goes on with what is written, or with the number behind it. -/
theorem step?_so_far {text : List Char} {r next : Reading} (soFar : ReadSoFar text r) (c : Char)
    (read : r.step? c = some next) : ReadSoFar (text ++ [c]) next := by
  obtain ⟨done, number, components, rfl, written, run, waiting, any⟩ := soFar
  by_cases numeral : isNumeral c
  · -- The number gets longer.
    rw [step?_numeral r numeral] at read
    obtain rfl := Option.some.inj read
    refine ⟨done, number ++ [c], components, List.append_assoc .., written, ?_, ?_, any⟩
    · intro d member
      rcases List.mem_append.mp member with earlier | last
      · exact run d earlier
      · rwa [List.mem_singleton.mp last]
    · simp [Reading.pending, waiting]
  · rw [step?_other r numeral] at read
    by_cases marks : c = 'T' ∨ c = 't'
    · -- No number waits where the marker is read.
      rw [if_pos marks] at read
      by_cases refused : r.inTime || !r.number.isEmpty
      · simp [refused] at read
      · rw [if_neg refused] at read
        obtain rfl := Option.some.inj read
        simp only [Bool.or_eq_true, Bool.not_eq_true', not_or, Bool.not_eq_true,
          Bool.not_eq_false, List.isEmpty_iff] at refused
        obtain ⟨date, empty⟩ := refused
        obtain rfl : number = [] := by
          rw [empty] at waiting
          exact List.map_eq_nil_iff.mp waiting.symm
        rw [date] at written
        refine ⟨done ++ [c], [], components, ?_, .marker written marks, by simp, empty, any⟩
        simp
    · -- The number becomes a component.
      rw [if_neg marks] at read
      by_cases empty : r.number.isEmpty
      · simp [empty] at read
      · rw [if_neg empty] at read
        obtain ⟨scale, unit, closed⟩ := Option.bind_eq_some_iff.mp read
        obtain ⟨side, named⟩ := (Scale.ofLetter?_iff ..).mp unit
        obtain ⟨none, same, whole, fraction, numeral⟩ := close?_some run waiting closed
        refine ⟨done ++ (number ++ [c]), [], components ++ [⟨whole, fraction, scale⟩], ?_, ?_,
          by simp, none, by simp⟩
        · simp
        · rw [same]
          exact .component written numeral side named

/-- Whatever is read up to some point is written as components and a number behind them. -/
theorem read_so_far {text : List Char} {r : Reading}
    (read : text.foldlM Reading.step? {} = some r) : ReadSoFar text r := by
  induction text using List.reverseRecOn generalizing r with
  | nil =>
    obtain rfl := Option.some.inj read
    exact ⟨[], [], [], rfl, .nothing, by simp, rfl, by simp⟩
  | append_singleton text c inductionHypothesis =>
    rw [List.foldlM_append] at read
    obtain ⟨before, readBefore, last⟩ := Option.bind_eq_some_iff.mp read
    simp only [List.foldlM_cons, List.foldlM_nil, Option.bind_eq_bind, Option.pure_def,
      Option.bind_fun_some] at last
    exact step?_so_far (inductionHypothesis readBefore) c last

/-- A reading that is complete has read components that are written so. -/
theorem written_of_read {text : List Char} {r : Reading}
    (read : text.foldlM Reading.step? {} = some r) (complete : r.number = [])
    (any : r.anyComponent = true) :
    ∃ components, components ≠ [] ∧ Written text r.inTime components := by
  obtain ⟨done, number, components, rfl, written, -, waiting, some⟩ := read_so_far read
  obtain rfl : number = [] := by
    rw [complete] at waiting
    exact List.map_eq_nil_iff.mp waiting.symm
  rw [List.append_nil]
  exact ⟨components, some any, written⟩

/-- What is written in no way behind the `P` is malformed. -/
theorem parseBody_malformed {body : List Char}
    (none : ∀ inTime components, components ≠ [] → ¬Written body inTime components) :
    parseBody body = .error .malformed := by
  unfold parseBody
  cases read : body.foldlM Reading.step? {} with
  | none => rfl
  | some r =>
    apply if_pos
    by_contra complete
    simp only [Bool.or_eq_true, Bool.not_eq_true', not_or, Bool.not_eq_false,
      List.isEmpty_iff] at complete
    obtain ⟨components, some, written⟩ := written_of_read read complete.1 complete.2
    exact none r.inTime components some written

/-- The duration that sums stand for, if they do for any. -/
def ofSums (sums : Option (UInt64 × UInt64)) : Except ReadError Duration :=
  match sums with
  | none => .error .malformed
  | some sums =>
    match ofParts? sums.1 sums.2 with
    | none => .error .tooLong
    | some d => .ok d

/-- What is written as components is read as the duration of their sums. -/
theorem parseBody_written {body : List Char} {inTime : Bool} {components : List Component}
    (some : components ≠ []) (written : Written body inTime components) :
    parseBody body = ofSums (sums? components) := by
  have any : (!components.isEmpty) = true := by simpa using some
  unfold parseBody
  rw [read_written written, any]
  cases sums? components with
  | none => rfl
  | some sums =>
    change Reading.finish (.between inTime true sums) = _
    unfold Reading.finish ofSums
    rw [if_neg (by simp [Reading.between])]
    cases parts : ofParts? sums.1 sums.2 <;> simp [Reading.between, parts]

/-- A text that is no written duration is malformed. -/
theorem parse_malformed {text : String} (none : ∀ components, ¬Denotes text components) :
    parse text = .error .malformed := by
  have body {p : Char} {body : List Char} (trimmed : Text.trimChars text.toList = p :: body)
      (leads : p = 'P' ∨ p = 'p') : parseBody body = .error .malformed := by
    apply parseBody_malformed
    intro inTime components some written
    exact none components ⟨some, p, body, inTime, trimmed, leads, written⟩
  unfold parse
  split
  · next trimmed => exact body trimmed (.inl rfl)
  · next trimmed => exact body trimmed (.inr rfl)
  · rfl

/-- A written duration is read as the duration of the sums of its components. -/
theorem parse_denoted {text : String} {components : List Component}
    (denoted : Denotes text components) : parse text = ofSums (sums? components) := by
  obtain ⟨some, p, body, inTime, trimmed, leads, written⟩ := denoted
  unfold parse
  rw [trimmed]
  rcases leads with rfl | rfl
  · exact parseBody_written some written
  · exact parseBody_written some written

end LiveConfig.Duration
