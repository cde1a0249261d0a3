/-!
# White space

Trimming follows the Unicode property `White_Space`, not the ASCII blanks alone.
-/

namespace LiveConfig.Text

/-- The characters with the Unicode property `White_Space`. -/
def isBlank (c : Char) : Bool :=
  let n := c.toNat
  (9 ≤ n && n ≤ 13) || n == 0x20 || n == 0x85 || n == 0xA0 || n == 0x1680 ||
    (0x2000 ≤ n && n ≤ 0x200A) || n == 0x2028 || n == 0x2029 || n == 0x202F || n == 0x205F ||
    n == 0x3000

/-- The characters left after the longest blank run at each end is dropped. -/
def trimChars (cs : List Char) : List Char :=
  ((cs.dropWhile isBlank).reverse.dropWhile isBlank).reverse

/-- Nothing is dropped where no blank is at either end. -/
theorem trimChars_of_ends {first last : Char} (middle : List Char) (notFirst : ¬isBlank first)
    (notLast : ¬isBlank last) :
    trimChars (first :: (middle ++ [last])) = first :: (middle ++ [last]) := by
  unfold trimChars
  rw [List.dropWhile_cons_of_neg notFirst, ← List.cons_append, List.reverse_append,
    List.reverse_singleton, List.singleton_append, List.dropWhile_cons_of_neg notLast]
  simp

/-- A text without the blanks at its ends. -/
def trim (s : String) : String :=
  String.ofList (trimChars s.toList)

/-- Splits at the first occurrence of a character, which belongs to neither part. -/
def splitFirst (sep : Char) (cs : List Char) : Option (List Char × List Char) :=
  match cs with
  | [] => none
  | c :: rest =>
    if c = sep then some ([], rest)
    else (splitFirst sep rest).map fun (before, after) => (c :: before, after)

/-- No split is found exactly when there is no separator. -/
theorem splitFirst_eq_none_iff {sep : Char} {cs : List Char} :
    splitFirst sep cs = none ↔ sep ∉ cs := by
  induction cs with
  | nil => simp [splitFirst]
  | cons c rest ih =>
    by_cases h : c = sep
    · simp [splitFirst, h]
    · simp [splitFirst, h, ih, Ne.symm h]

/-- A split is found exactly when the text is `before`, the separator and `after`, with no
separator in `before`. -/
theorem splitFirst_eq_some_iff {sep : Char} {cs before after : List Char} :
    splitFirst sep cs = some (before, after) ↔ cs = before ++ sep :: after ∧ sep ∉ before := by
  induction cs generalizing before with
  | nil => simp [splitFirst]
  | cons c rest ih =>
    by_cases h : c = sep
    · subst h
      cases before with
      | nil => simp [splitFirst, eq_comm]
      | cons b bs => simp [splitFirst]; grind
    · cases before with
      | nil => simp [splitFirst, h]
      | cons b bs =>
        simp only [splitFirst, h, if_false, Option.map_eq_some_iff, Prod.mk.injEq, List.cons.injEq,
          List.cons_append, List.mem_cons, Prod.exists]
        constructor
        · rintro ⟨bs', after', hs, ⟨rfl, rfl⟩, rfl⟩
          have := ih.1 hs
          exact ⟨⟨rfl, this.1⟩, by grind⟩
        · rintro ⟨⟨rfl, hrest⟩, hmem⟩
          exact ⟨bs, after, ih.2 ⟨hrest, by grind⟩, ⟨rfl, rfl⟩, rfl⟩

end LiveConfig.Text
