import Mathlib.Data.List.Induction
import LiveConfig.Config

/-!
# The newest record of a key

Records of one key are ordered by their ids. Of several records the one with the greatest id counts,
and of several with that id the one that came first. A key is served by the record that counts,
unless that record marks a deletion.

This is what a store that takes in records one after the other is compared with: the whole list is
at hand here and nothing is forgotten. `newest_position` fixes which of the records counts, and
`newest_congr` says when only the set of the records matters and neither their order nor how often
each occurs.
-/

namespace LiveConfig

/-- The record that counts for a key: the first of those with the greatest id. -/
def newest? (key : String) (records : List Config) : Option Config :=
  (records.filter fun c => c.key == key).maxOn? Config.id

/-- What records serve for a key: the record that counts, unless it marks a deletion. -/
def served? (key : String) (records : List Config) : Option Config :=
  (newest? key records).filter fun c => !c.isTombstone

/-- No two different records share both key and id. -/
def Unambiguous (records : List Config) : Prop :=
  ∀ c ∈ records, ∀ d ∈ records, c.key = d.key → c.id = d.id → c = d

namespace NewestRecord

/-- A further record of the key counts if none did before or if its id is greater; a record of
another key changes nothing. -/
theorem newest_concat (key : String) (records : List Config) (c : Config) :
    newest? key (records ++ [c]) =
      if c.key = key ∧ ∀ kept, newest? key records = some kept → kept.id < c.id then some c
      else newest? key records := by
  by_cases own : c.key = key
  · have filtered : (records ++ [c]).filter (fun d => d.key == key) =
        records.filter (fun d => d.key == key) ++ [c] := by
      simp [List.filter_append, own]
    rw [newest?, filtered, List.maxOn?_append, List.maxOn?_singleton, ← newest?]
    cases counted : newest? key records with
    | none => simp [own]
    | some kept =>
      simp only [Option.merge_some_some, maxOn_eq_if, own, true_and, Option.some.injEq,
        forall_eq', ← Int64.not_le]
      split <;> simp_all
  · simp [newest?, List.filter_append, own]

/-- Nothing counts for a key exactly when no record has it. -/
theorem newest_none_iff (key : String) (records : List Config) :
    newest? key records = none ↔ ∀ c ∈ records, c.key ≠ key := by
  simp [newest?, ← Option.not_isSome_iff_eq_none, List.isSome_maxOn?_iff, List.filter_eq_nil_iff]

/-- The place of the record that counts: it has the key, the records of the key before it have
smaller ids, and those after it have no greater ones.

A record that is appended and counts has a greater id than the one that counted, which by induction
no record of the key exceeds. One that is appended and does not count has another key or no greater
id, and the place found for the shorter list remains. -/
theorem newest_position (key : String) (records : List Config) (c : Config)
    (counts : newest? key records = some c) :
    ∃ before after, records = before ++ c :: after ∧ c.key = key ∧
      (∀ d ∈ before, d.key = key → d.id < c.id) ∧ ∀ d ∈ after, d.key = key → d.id ≤ c.id := by
  induction records using List.reverseRecOn generalizing c with
  | nil => simp [newest?] at counts
  | append_singleton records last inductionHypothesis =>
    rw [newest_concat] at counts
    split at counts
    case isTrue replaces =>
      obtain rfl := Option.some.inj counts
      refine ⟨records, [], rfl, replaces.1, ?_, by simp⟩
      intro d member own
      cases counted : newest? key records with
      | none => exact absurd own ((newest_none_iff key records).mp counted d member)
      | some kept =>
        have greater : kept.id < last.id := replaces.2 kept counted
        obtain ⟨before, after, rfl, -, smaller, noGreater⟩ := inductionHypothesis kept counted
        rcases List.mem_append.mp member with early | late
        · have := smaller d early own
          grind
        · rcases List.mem_cons.mp late with rfl | late
          · exact greater
          · have := noGreater d late own
            grind
    case isFalse keeps =>
      obtain ⟨before, after, rfl, own, smaller, noGreater⟩ := inductionHypothesis c counts
      refine ⟨before, after ++ [last], by simp, own, smaller, ?_⟩
      intro d member ownLast
      rcases List.mem_append.mp member with present | isLast
      · exact noGreater d present ownLast
      · obtain rfl := List.mem_singleton.mp isLast
        refine Int64.not_lt.mp fun greater => keeps ⟨ownLast, ?_⟩
        intro kept counted
        obtain rfl := Option.some.inj (counted.symm.trans counts)
        exact greater

/-- The record that counts is one of the records, it has the key, and no record of the key has a
greater id. -/
theorem newest_sound (key : String) (records : List Config) (c : Config)
    (counts : newest? key records = some c) :
    c ∈ records ∧ c.key = key ∧ ∀ d ∈ records, d.key = key → d.id ≤ c.id := by
  obtain ⟨before, after, rfl, own, smaller, noGreater⟩ := newest_position key records c counts
  refine ⟨by simp, own, ?_⟩
  intro d member ownOther
  rcases List.mem_append.mp member with early | late
  · have := smaller d early ownOther
    grind
  · rcases List.mem_cons.mp late with rfl | late
    · exact Int64.le_refl d.id
    · exact noGreater d late ownOther

/-- Where key and id name a record, only the set of the records decides which one counts. The two
records that count have each other's key and neither id exceeds the other, so they are one. -/
theorem newest_congr (key : String) (records others : List Config)
    (same : ∀ c, c ∈ others ↔ c ∈ records) (unambiguous : Unambiguous records) :
    newest? key others = newest? key records := by
  cases counted : newest? key records with
  | none =>
    rw [newest_none_iff] at counted ⊢
    intro c member
    exact counted c ((same c).mp member)
  | some c =>
    obtain ⟨member, own, greatest⟩ := newest_sound key records c counted
    cases countedOther : newest? key others with
    | none =>
      have present := (same c).mpr member
      exact absurd own ((newest_none_iff key others).mp countedOther c present)
    | some d =>
      obtain ⟨memberOther, ownOther, greatestOther⟩ := newest_sound key others d countedOther
      have upper : d.id ≤ c.id := greatest d ((same d).mp memberOther) ownOther
      have lower : c.id ≤ d.id := greatestOther c ((same c).mpr member) own
      rw [unambiguous d ((same d).mp memberOther) c member (ownOther.trans own.symm)
        (Int64.le_antisymm upper lower)]

end NewestRecord

end LiveConfig
