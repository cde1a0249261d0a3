import LiveConfig.Proofs.ResolutionCourse

/-!
# Secrets and the chains of their keys

A decided text that names a key is a secret. It is served opened, with a text that its key resolves
to one level below, or its resolution fails as undecryptable, whatever is the matter with the key.
So the sealed text is never served.

A key may be a secret itself. Where the names lead on for more levels than are left, the first name
that may not be resolved is reported, through all keys before it. Following the names leads in a
circle where each of some keys names one of them; there, the levels run out before any secret is
opened. The induction is on the levels that are left and goes through all keys of the circle at
once, since a level resolves one key and the next one another.
-/

namespace LiveConfig.Resolver

/-- A text opens a secret where so many more keys may be resolved: the key that the secret names
resolves, one level below, to a text that decrypts it. -/
def Opens (context : Context) (left : Nat) (r : Resolver) (key name sealed text : String) : Prop :=
  ∃ below inner v secretKey, left = below + 1 ∧
    resolveAt context below (r.skip (r.draws context key)) name = .ok inner ∧
    inner.value = some v ∧ v.payload = .text secretKey ∧ r.decrypter secretKey sealed = .ok text

/-- A key names the first of some names for its secret, and each name the next one. What chance
gives to a key is gone for the next. -/
def Chain (context : Context) : Resolver → String → List String → Prop
  | _, _, [] => True
  | r, key, name :: rest =>
    r.secretKey? context key = some name ∧ Chain context (r.skip (r.draws context key)) name rest

/-- The fault of a chain that goes on beyond the last level: the last name may not be resolved, and
each name before it is unresolved for that. -/
def chainFault : String → List String → DecryptionFault
  | name, [] => .chainTooDeep name
  | name, next :: rest => .keyUnresolved name (.undecryptable (chainFault next rest))

/-- Each of these keys names one of them for its secret, whatever chance gives. Whoever follows the
names comes back to a key. -/
def Circular (r : Resolver) (context : Context) (keys : List String) : Prop :=
  ∀ key ∈ keys, ∀ chance, ∃ name ∈ keys, { r with chance }.secretKey? context key = some name

/-- Opening gives the texts that open a secret. -/
theorem openerAt_ok_iff (context : Context) (left : Nat) (r : Resolver)
    (key name sealed text : String) :
    openerAt context left r key name sealed = .ok text ↔
      Opens context left r key name sealed text := by
  cases left with
  | zero => simp [openerAt, Opens]
  | succ below =>
    rw [openerAt, openWith_ok_iff]
    constructor
    · rintro ⟨inner, v, secretKey, resolved, rest⟩
      exact ⟨below, inner, v, secretKey, rfl, resolved, rest⟩
    · rintro ⟨other, inner, v, secretKey, same, resolved, rest⟩
      obtain rfl := Nat.succ.inj same
      exact ⟨inner, v, secretKey, resolved, rest⟩

/-- Failing to open a secret is being undecryptable. -/
theorem openerAt_error (context : Context) (left : Nat) (r : Resolver)
    (key name sealed : String) (error : ConfigError)
    (failed : openerAt context left r key name sealed = .error error) :
    ∃ fault, error = .undecryptable fault := by
  cases left with
  | zero => exact ⟨_, (Except.error.inj failed).symm⟩
  | succ below =>
    obtain ⟨fault, same, -⟩ := r.openWith_error _ name sealed error failed
    exact ⟨fault, same⟩

/-- The key that a secret names is that of the decided value. -/
theorem secretKey?_some_iff (r : Resolver) (context : Context) (key name : String) :
    r.secretKey? context key = some name ↔ ∃ v sealed, r.decided? context key = some v ∧
      v.payload = .text sealed ∧ v.decryptWith = some name := by
  have same : r.secretKey? context key = (r.decided? context key).bind fun v =>
      v.text?.bind fun _ => v.decryptWith := by
    simp only [secretKey?, decided?, Option.bind_eq_bind, Option.bind_assoc, Option.bind_map]
    refine Option.bind_congr fun selected _ => Option.bind_congr fun choice _ => ?_
    cases payload : choice.2.payload <;> simp [Value.text?, payload]
  simp only [same, Option.bind_eq_some_iff, ReferenceEvaluation.text_iff]
  constructor
  · rintro ⟨v, decided, sealed, text, named⟩
    exact ⟨v, sealed, decided, text, named⟩
  · rintro ⟨v, sealed, decided, text, named⟩
    exact ⟨v, decided, sealed, text, named⟩

/-- Where a secret is decided, resolving its key is opening it. -/
theorem resolveAt_secret (context : Context) (left : Nat) (r : Resolver) (key : String) (v : Value)
    (sealed name : String) (decided : r.decided? context key = some v)
    (text : v.payload = .text sealed) (named : v.decryptWith = some name) :
    ∃ config found arm, resolveAt context left r key =
      (openerAt context left r key name sealed).map fun plain =>
        { key, config, selection := some found, arm,
          value := some { payload := .text plain, confidential := true } } := by
  obtain ⟨selected, arm, serves, chosen⟩ := (r.decided?_some_iff context key v).mp decided
  rw [resolveAt_eq]
  generalize openerAt context left r key = opener
  have course := r.resolveWith_course context key opener
  generalize r.resolveWith opener context key = result at course
  cases course with
  | missing absent => simp [selected?, absent] at serves
  | unmatched config held none =>
    rw [none] at serves
    contradiction
  | undecided other serves' cause stuck =>
    obtain rfl := Option.some.inj (serves.symm.trans serves')
    rw [chosen] at stuck
    contradiction
  | decided config held found serves' arm' value chosen' =>
    obtain rfl := Option.some.inj (serves.symm.trans serves')
    obtain ⟨rfl, rfl⟩ := Prod.mk.inj (Except.ok.inj (chosen.symm.trans chosen'))
    refine ⟨config, found, arm, ?_⟩
    rw [r.settle_secret opener config.valueType _ v sealed name text named]
    cases opener name sealed <;> rfl

/-- A secret is served exactly as a text that opens it, and marked as confidential; where no text
opens it, its key is undecryptable. -/
theorem resolveAt_opened_or_failed (context : Context) (left : Nat) (r : Resolver) (key : String)
    (v : Value) (sealed name : String) (decided : r.decided? context key = some v)
    (text : v.payload = .text sealed) (named : v.decryptWith = some name) :
    (∀ plain, Opens context left r key name sealed plain → ∃ resolution,
      resolveAt context left r key = .ok resolution ∧
        resolution.value = some { payload := .text plain, confidential := true }) ∧
    ((∀ plain, ¬Opens context left r key name sealed plain) → ∃ fault,
      resolveAt context left r key = .error (.undecryptable fault)) := by
  obtain ⟨config, found, arm, resolved⟩ :=
    resolveAt_secret context left r key v sealed name decided text named
  constructor
  · intro plain opens
    rw [(openerAt_ok_iff ..).mpr opens] at resolved
    exact ⟨_, resolved, rfl⟩
  · intro closed
    cases opened : openerAt context left r key name sealed with
    | ok plain => exact absurd ((openerAt_ok_iff ..).mp opened) (closed plain)
    | error error =>
      obtain ⟨fault, rfl⟩ := openerAt_error context left r key name sealed error opened
      rw [opened] at resolved
      exact ⟨fault, resolved⟩

/-- Where a chain has one name more than there are levels left, its last name may not be resolved,
and the key fails for that. -/
theorem resolveAt_chain (context : Context) (r : Resolver) (key name : String) (rest : List String)
    (chain : Chain context r key (name :: rest)) :
    resolveAt context rest.length r key = .error (.undecryptable (chainFault name rest)) := by
  induction rest generalizing r key name with
  | nil =>
    obtain ⟨v, sealed, decided, text, named⟩ := (r.secretKey?_some_iff context key name).mp chain.1
    obtain ⟨config, found, arm, resolved⟩ :=
      resolveAt_secret context 0 r key v sealed name decided text named
    exact resolved
  | cons next rest inductionHypothesis =>
    obtain ⟨names, later⟩ := chain
    obtain ⟨v, sealed, decided, text, named⟩ := (r.secretKey?_some_iff context key name).mp names
    obtain ⟨config, found, arm, resolved⟩ :=
      resolveAt_secret context (rest.length + 1) r key v sealed name decided text named
    have closed : openerAt context (rest.length + 1) r key name sealed =
        .error (.undecryptable (chainFault name (next :: rest))) := by
      show r.openWith (resolveAt context rest.length (r.skip (r.draws context key)) name) name
        sealed = _
      rw [inductionHypothesis _ name next later]
      rfl
    rw [closed] at resolved
    exact resolved

/-- In a circle no secret is opened, however many levels there are. A key of the circle would be
opened by the text of another one, and that is not served at the level below. -/
theorem resolveAt_circular (context : Context) (left : Nat) (r : Resolver) (keys : List String)
    (circular : r.Circular context keys) (key : String) (member : key ∈ keys) :
    ∃ fault, resolveAt context left r key = .error (.undecryptable fault) := by
  induction left generalizing r key with
  | zero =>
    obtain ⟨name, -, names⟩ := circular key member r.chance
    obtain ⟨v, sealed, decided, text, named⟩ := (r.secretKey?_some_iff context key name).mp names
    refine (resolveAt_opened_or_failed context 0 r key v sealed name decided text named).2 ?_
    rintro plain ⟨below, -, -, -, none, -⟩
    contradiction
  | succ left inductionHypothesis =>
    obtain ⟨name, among, names⟩ := circular key member r.chance
    obtain ⟨v, sealed, decided, text, named⟩ := (r.secretKey?_some_iff context key name).mp names
    refine (resolveAt_opened_or_failed context (left + 1) r key v sealed name decided text
      named).2 ?_
    rintro plain ⟨below, inner, _, _, same, resolved, -⟩
    obtain rfl := Nat.succ.inj same
    obtain ⟨fault, failed⟩ := inductionHypothesis (r.skip (r.draws context key)) circular name among
    rw [failed] at resolved
    contradiction

/-- Secrets are served opened or not at all. A decided text with the name of a key is served as the
text that it opens to, confidential and no secret any more, if its key resolves one level below to a
text that decrypts it; otherwise its own key is undecryptable. The latter holds for every key of a
circle, however deep keys may nest. -/
theorem secret_opened_or_failed (r : Resolver) (context : Context) :
    (∀ key v sealed name, r.decided? context key = some v → v.payload = .text sealed →
      v.decryptWith = some name →
        (∀ plain, Opens context r.depth r key name sealed plain → ∃ resolution,
          r.resolve context key = .ok resolution ∧ resolution.value =
            some { payload := .text plain, confidential := true, decryptWith := none }) ∧
        ((∀ plain, ¬Opens context r.depth r key name sealed plain) → ∃ fault,
          r.resolve context key = .error (.undecryptable fault))) ∧
    ∀ keys, r.Circular context keys → ∀ key ∈ keys, ∃ fault,
      r.resolve context key = .error (.undecryptable fault) :=
  ⟨fun key v sealed name decided text named =>
    resolveAt_opened_or_failed context r.depth r key v sealed name decided text named,
    fun keys circular key member => resolveAt_circular context r.depth r keys circular key member⟩

/-- A text sealed with the key that a config holds. -/
def sealedWith (id : Int64) (key name : String) : Config :=
  .constant id key { payload := .text "c", decryptWith := some name }

/-- A resolver with a key, a secret that it opens, one whose key is missing, and two secrets that
name each other. -/
def vault : Resolver where
  catalog := (Store.ofConfigs [.constant 1 "master" { payload := .text "k" },
    sealedWith 2 "token" "master", sealedWith 3 "lost" "absent", sealedWith 4 "left" "right",
    sealedWith 5 "right" "left"]).catalog
  decrypter secretKey sealed :=
    if secretKey = "k" ∧ sealed = "c" then .ok "p" else .error .notAuthentic

/-- The first secret is opened and the others are not. -/
theorem vault_opens_token :
    (∃ resolution, vault.resolve ∅ "token" = .ok resolution ∧ resolution.value =
      some { payload := .text "p", confidential := true, decryptWith := none }) ∧
    (∃ fault, vault.resolve ∅ "lost" = .error (.undecryptable fault)) ∧
    vault.Circular ∅ ["left", "right"] ∧
    ∃ fault, vault.resolve ∅ "left" = .error (.undecryptable fault) := by
  obtain ⟨secrets, circles⟩ := secret_opened_or_failed vault ∅
  have circular : vault.Circular ∅ ["left", "right"] := by
    intro key member chance
    simp only [List.mem_cons, List.not_mem_nil, or_false] at member
    rcases member with rfl | rfl
    · exact ⟨"right", by simp, rfl⟩
    · exact ⟨"left", by simp, rfl⟩
  refine ⟨?_, ?_, circular, circles _ circular "left" (by simp)⟩
  · exact (secrets "token" _ "c" "master" rfl rfl rfl).1 "p"
      ⟨15, _, _, "k", rfl, rfl, rfl, rfl, rfl⟩
  · refine (secrets "lost" _ "c" "absent" rfl rfl rfl).2 ?_
    rintro plain ⟨below, inner, _, _, same, resolved, -⟩
    obtain rfl : 15 = below := Nat.succ.inj same
    contradiction

end LiveConfig.Resolver
