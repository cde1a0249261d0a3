import LiveConfig.Proofs.SecretChain

/-!
# The confidential mark

A value passes through up to four hands before it is served: the rules select it, a split gives one
of its arms, a variable or a secret takes its place, and it inherits the mark of what was selected.
The mark of what is served is set exactly if it was set on the selected value or on the decided one,
or if the value was decrypted.

Inheriting is skipped where the settled value equals the selected one. Equality includes the mark,
so nothing is missed there, although floats are compared as numbers and a NaN differs from itself.
-/

namespace LiveConfig

/-- Equal values have the same mark. -/
theorem Value.same_confidential (v w : Value) (same : v.same w = true) :
    v.confidential = w.confidential := by
  cases v
  cases w
  simp only [Value.same, Bool.and_eq_true, beq_iff_eq] at same
  exact same.1.2

/-- A text that names the key which opens it. -/
def Value.IsSecret (v : Value) : Prop :=
  ∃ sealed name, v.payload = .text sealed ∧ v.decryptWith = some name

namespace Resolver

variable (r : Resolver) (context : Context) (key : String)

/-- Inheriting sets the mark of what was selected and clears none. -/
theorem inherit_confidential (selected value : Value) :
    (inherit selected value).confidential = true ↔
      selected.confidential = true ∨ value.confidential = true := by
  unfold inherit
  cases marked : selected.confidential with
  | false => simp
  | true =>
    cases same : value.same selected with
    | false => simp
    | true =>
      have kept : value.confidential = true :=
        (Value.same_confidential value selected same).trans marked
      simp [kept]

/-- A provided value that is read has the mark that it was asked for with. -/
theorem provide_confidential (p : Provided) (target : ValueType) (confidential : Bool)
    (value : Value) (read : r.provide p target confidential = .ok value) :
    value.confidential = confidential := by
  unfold provide at read
  split at read
  · contradiction
  · split at read
    · contradiction
    · split at read
      · contradiction
      · rw [← Except.ok.inj read]

/-- The mark of a settled value comes from the selected or from the decided value, or from
decryption. -/
theorem settle_confidential (opener : Opener) (target : ValueType)
    (selected value settled : Value)
    (done : r.settle opener target selected value = .ok settled) :
    settled.confidential = true ↔
      selected.confidential = true ∨ value.confidential = true ∨ value.IsSecret := by
  unfold settle at done
  split at done
  · next p provided =>
    have plain : ¬value.IsSecret := by
      rintro ⟨sealed, name, text, -⟩
      rw [provided] at text
      contradiction
    obtain ⟨read, here, rfl⟩ := (Outcome.map_ok_iff ..).mp done
    rw [inherit_confidential, r.provide_confidential p target _ read here]
    simp [plain]
  · next sealed name text named =>
    have secret : value.IsSecret := ⟨sealed, name, text, named⟩
    obtain ⟨opened, -, rfl⟩ := (Outcome.map_ok_iff ..).mp done
    simp [secret]
  · next other =>
    have plain : ¬value.IsSecret := by
      rintro ⟨sealed, name, text, named⟩
      exact other sealed name text named
    obtain rfl := Except.ok.inj done
    rw [inherit_confidential]
    simp [plain]

/-- A value is what decrypting a decided secret gives, where so many more keys may be resolved. -/
def Decrypted (context : Context) (left : Nat) (r : Resolver) (key : String)
    (decided v : Value) : Prop :=
  ∃ sealed name plain, decided.payload = .text sealed ∧ decided.decryptWith = some name ∧
    Opens context left r key name sealed plain ∧
      v = { payload := .text plain, confidential := true }

/-- What is settled is decrypted exactly if a secret was decided. -/
theorem settle_decrypted_iff (left : Nat) (target : ValueType) (selected value settled : Value)
    (done : r.settle (openerAt context left r key) target selected value = .ok settled) :
    Decrypted context left r key value settled ↔ value.IsSecret := by
  constructor
  · rintro ⟨sealed, name, -, text, named, -⟩
    exact ⟨sealed, name, text, named⟩
  · rintro ⟨sealed, name, text, named⟩
    rw [r.settle_secret _ target selected value sealed name text named] at done
    obtain ⟨plain, opened, rfl⟩ := (Outcome.map_ok_iff ..).mp done
    exact ⟨sealed, name, plain, text, named, (openerAt_ok_iff ..).mp opened, rfl⟩

end Resolver

end LiveConfig
