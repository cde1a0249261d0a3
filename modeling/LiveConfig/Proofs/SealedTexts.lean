import LiveConfig.Proofs.StoreKeys

/-!
# Sealed texts

Opening a sealed text with its key gives the text back, whatever the block cipher does: sealing and
opening add one key stream, and added twice it is gone. The written form of a sealed text is cut at
its dashes, of which hexadecimal digits have none, and the ciphertext may be empty; its tag is found
again by its length.

So a secret is served as the text that was sealed, if its key resolves to the key it was sealed
with. It has to do so one level below the secret: where keys may not nest so deep the secret is not
opened, though its key resolves when asked for by itself. So it is at the end of every chain of keys
that is as long as keys may nest.
-/

namespace LiveConfig

namespace Cipher.Gcm

/-- A block has sixteen bytes. -/
theorem Block.length_toBytes (b : Block) : b.toBytes.length = 16 := by
  simp [Block.toBytes, Bytes.bigEndian]

/-- Adding the same bytes twice changes nothing. -/
theorem xor_twice (text stream : Bytes) (enough : text.length ≤ stream.length) :
    List.zipWith (· ^^^ ·) (List.zipWith (· ^^^ ·) text stream) stream = text := by
  induction text generalizing stream with
  | nil => simp
  | cons b rest inductionHypothesis =>
    cases stream with
    | nil => simp at enough
    | cons s later =>
      have cancelled : b ^^^ s ^^^ s = b := by
        rw [UInt8.xor_assoc, UInt8.xor_self, UInt8.xor_zero]
      simp only [List.zipWith_cons_cons, cancelled,
        inductionHypothesis later (by simpa using enough)]

/-- A text keeps its length when a key stream is added to it. -/
theorem length_addKeyStream (cipher : Block → Block) (counter : Block) (text : Bytes) :
    (addKeyStream cipher counter text).length = text.length := by
  fun_induction addKeyStream cipher counter text with
  | case1 => rfl
  | case2 counter text nonempty inductionHypothesis =>
    simp only [List.length_append, List.length_zipWith, List.length_take, Block.length_toBytes,
      inductionHypothesis, List.length_drop]
    omega

/-- Adding a key stream twice changes nothing. The induction is on the blocks of the text: the
blocks of the sum are cut at the same places. -/
theorem addKeyStream_twice (cipher : Block → Block) (counter : Block) (text : Bytes) :
    addKeyStream cipher counter (addKeyStream cipher counter text) = text := by
  fun_induction addKeyStream cipher counter text with
  | case1 counter => simp [addKeyStream]
  | case2 counter text nonempty inductionHypothesis =>
    have some : 0 < text.length := List.length_pos_iff.mpr nonempty
    have stream : (text.take 16).length ≤ (cipher counter).toBytes.length := by
      simp only [List.length_take, Block.length_toBytes]
      omega
    have size : (List.zipWith (· ^^^ ·) (text.take 16) (cipher counter).toBytes).length =
        min 16 text.length := by
      simp only [List.length_zipWith, List.length_take, Block.length_toBytes]
      omega
    -- Either the front fills a block or nothing follows it.
    have cut : 16 ≤ text.length ∨
        addKeyStream cipher (increment counter) (text.drop 16) = [] := by
      rw [← List.length_eq_zero_iff, length_addKeyStream, List.length_drop]
      omega
    generalize sum : List.zipWith (· ^^^ ·) (text.take 16) (cipher counter).toBytes = front
      at size ⊢
    generalize addKeyStream cipher (increment counter) (text.drop 16) = rest
      at cut inductionHypothesis ⊢
    have taken : (front ++ rest).take 16 = front := by
      rcases cut with full | rfl
      · exact List.take_left' (by omega)
      · rw [List.append_nil, List.take_of_length_le (by omega)]
    have dropped : (front ++ rest).drop 16 = rest := by
      rcases cut with full | rfl
      · exact List.drop_left' (by omega)
      · rw [List.append_nil, List.drop_of_length_le (by omega)]
    have nonempty : front ++ rest ≠ [] := by
      rw [← List.length_pos_iff, List.length_append]
      omega
    rw [addKeyStream, dif_neg nonempty, taken, dropped, inductionHypothesis, ← sum,
      xor_twice _ _ stream, List.take_append_drop]

/-- A tag has sixteen bytes. -/
theorem length_tag (cipher : Block → Block) (counter : Block) (body : Bytes) :
    (tag cipher counter body).length = 16 :=
  Block.length_toBytes _

/-- A closed text opens under the same cipher and nonce. -/
theorem open?_close (cipher : Block → Block) (nonce text : Bytes) :
    open? cipher nonce (close cipher nonce text).1 (close cipher nonce text).2 = some text := by
  simp only [open?, close, addKeyStream_twice, if_true]

end Cipher.Gcm

namespace Secret

/-- A text without dashes is one part. -/
theorem splitDashes_single (cs : List Char) (undashed : '-' ∉ cs) : splitDashes cs = [cs] := by
  induction cs with
  | nil => rfl
  | cons c rest inductionHypothesis =>
    obtain ⟨first, others⟩ := not_or.mp (mt List.mem_cons.mpr undashed)
    rw [splitDashes, inductionHypothesis others]
    intro later same
    exact absurd same.symm first

/-- A part without dashes ends at the first pair of them. -/
theorem splitDashes_cons (cs rest : List Char) (undashed : '-' ∉ cs) :
    splitDashes (cs ++ '-' :: '-' :: rest) = cs :: splitDashes rest := by
  induction cs with
  | nil => rfl
  | cons c others inductionHypothesis =>
    obtain ⟨first, later⟩ := not_or.mp (mt List.mem_cons.mpr undashed)
    rw [List.cons_append, splitDashes, inductionHypothesis later]
    intro later same
    exact absurd same.symm first

/-- Hexadecimal parts are found again between pairs of dashes. -/
theorem splitDashes_hex (first second third : Bytes) :
    splitDashes (Hex.encode first ++ "--" ++ Hex.encode second ++ "--" ++ Hex.encode third).toList =
      [(Hex.encode first).toList, (Hex.encode second).toList, (Hex.encode third).toList] := by
  have undashed (bs : Bytes) : '-' ∉ (Hex.encode bs).toList := fun member =>
    absurd (Hex.mem_encode bs '-' member) (by decide)
  have dashes : ("--" : String).toList = ['-', '-'] := rfl
  simp only [String.toList_append, dashes, List.append_assoc, List.cons_append, List.nil_append,
    splitDashes_cons _ _ (undashed _), splitDashes_single _ (undashed _)]

/-- A written part is read as its bytes. -/
theorem readPart_encode (part : Part) (bs : Bytes) : readPart part (Hex.encode bs) = .ok bs := by
  rw [readPart, Hex.decode_encode]
  rfl

/-- A key text stands for a key that can be used: it has 64 hexadecimal digits, in either case. -/
structure IsKey (keyText : String) : Prop where
  length : keyText.length = 64
  digits : ∀ c ∈ keyText.toList, c ∈ Hex.digits

/-- A nonce has a length that the mode is used with. -/
def IsNonce (nonce : Bytes) : Prop :=
  nonce.length = 12 ∨ nonce.length = 16

/-- A key is read as 32 bytes. -/
theorem IsKey.read {keyText : String} (isKey : IsKey keyText) :
    ∃ key, readPart .key keyText = .ok key ∧ key.length = 32 := by
  obtain ⟨key, read, half⟩ := Hex.decode_digits keyText isKey.digits (by rw [isKey.length])
  rw [isKey.length] at half
  refine ⟨key, ?_, by omega⟩
  rw [readPart, read]
  rfl

/-- Under a key and with a nonce every text can be sealed. The sealed text has three parts, and the
key opens it. -/
theorem encrypt_opens (keyText text : String) (nonce : Bytes) (isKey : IsKey keyText)
    (isNonce : IsNonce nonce) : ∃ payload, encrypt keyText text nonce = .ok payload ∧
      (splitDashes payload.toList).length = 3 ∧ decrypt keyText payload = .ok text := by
  obtain ⟨key, readKey, size⟩ := isKey.read
  have lengths : checkLengths key nonce = .ok () := by
    unfold IsNonce at isNonce
    rw [checkLengths, if_neg (by omega), if_neg (by omega)]
  have opens := Cipher.Gcm.open?_close (blockCipher key) nonce (Bytes.ofText text)
  have tagSize : (Cipher.Gcm.close (blockCipher key) nonce (Bytes.ofText text)).2.length = 16 :=
    Cipher.Gcm.length_tag ..
  generalize sealed : Cipher.Gcm.close (blockCipher key) nonce (Bytes.ofText text) = parts
    at opens tagSize
  obtain ⟨body, tag⟩ := parts
  refine ⟨_, ?_, by rw [splitDashes_hex body nonce tag]; rfl, ?_⟩
  · simp only [encrypt, readKey, bind, Except.bind, lengths, sealed]
    rfl
  · have cut : (body ++ tag).length - tagLength = body.length := by
      rw [List.length_append, tagSize, tagLength]
      omega
    simp only [decrypt, splitDashes_hex, String.ofList_toList, readPart_encode, readKey, bind,
      Except.bind, lengths, cut, List.take_left, List.drop_left, opens, Bytes.toText?_ofText]
    rfl

end Secret

namespace Resolver

/-- The key that a secret names resolves to a text one level below the secret. -/
def KeyServes (r : Resolver) (context : Context) (key name keyText : String) : Prop :=
  ∃ below inner v, r.depth = below + 1 ∧
    resolveAt context below (r.skip (r.draws context key)) name = .ok inner ∧
    inner.value = some v ∧ v.payload = .text keyText

/-- What is sealed under a key and with a nonce is a text of three parts that opens to what was
sealed. Where a key decides on that text as a secret, and the key that the secret names resolves to
the key of the seal one level below, the secret is served as what was sealed, confidential and no
secret any more. Where no level is left for the last name of a chain, that name is reported as too
deep, through all names before it; where there is no level at all, by the secret itself. -/
theorem sealed_text_recovered (keyText text : String) (nonce : Bytes)
    (isKey : Secret.IsKey keyText) (isNonce : Secret.IsNonce nonce) :
    ∃ payload, Secret.encrypt keyText text nonce = .ok payload ∧
      (Secret.splitDashes payload.toList).length = 3 ∧
      Secret.decrypt keyText payload = .ok text ∧
      (∀ (r : Resolver) (context : Context) (key name : String) (v : Value),
        r.decrypter = Secret.decrypt → r.decided? context key = some v →
        v.payload = .text payload → v.decryptWith = some name →
        r.KeyServes context key name keyText →
          ∃ resolution, r.resolve context key = .ok resolution ∧ resolution.value =
            some { payload := .text text, confidential := true, decryptWith := none }) ∧
      (∀ (r : Resolver) (context : Context) (key name : String) (v : Value),
        r.decided? context key = some v → v.payload = .text payload → v.decryptWith = some name →
        r.depth = 0 →
          r.resolve context key = .error (.undecryptable (.chainTooDeep name))) ∧
      ∀ (r : Resolver) (context : Context) (key name : String) (rest : List String),
        Chain context r key (name :: rest) → r.depth = rest.length →
          r.resolve context key = .error (.undecryptable (chainFault name rest)) := by
  obtain ⟨payload, sealed, parts, opened⟩ := Secret.encrypt_opens keyText text nonce isKey isNonce
  refine ⟨payload, sealed, parts, opened, ?_, ?_, ?_⟩
  · rintro r context key name v decrypter decided holds named ⟨below, inner, w, deep, resolved,
      value, keyHeld⟩
    have opens : Opens context r.depth r key name payload text :=
      ⟨below, inner, w, keyText, deep, resolved, value, keyHeld, by rw [decrypter, opened]⟩
    exact (resolveAt_opened_or_failed context r.depth r key v payload name decided holds named).1
      text opens
  · intro r context key name v decided holds named shallow
    have names : r.secretKey? context key = some name :=
      (r.secretKey?_some_iff context key name).mpr ⟨v, payload, decided, holds, named⟩
    rw [resolve, shallow]
    exact resolveAt_chain context r key name [] ⟨names, trivial⟩
  · intro r context key name rest chain deep
    rw [resolve, deep]
    exact resolveAt_chain context r key name rest chain

/-- A key in upper and lower case. -/
def masterKey : String :=
  "e657e0406fc22e17d3145966396b2130d33dcb30ac0edd62A77235CDD01FC49D"

/-- It is a key. -/
theorem masterKey_isKey : Secret.IsKey masterKey := by
  have digits : masterKey.toList.all (Hex.digits.contains ·) = true := by decide +kernel
  have length : masterKey.length = 64 := by decide +kernel
  exact ⟨length, fun c member => List.contains_iff_mem.mp (List.all_eq_true.mp digits c member)⟩

/-- A resolver with a key and a secret, and a limit to how deep keys may nest. -/
def locker (payload : String) (depth : Nat) : Resolver where
  catalog := (Store.ofConfigs [.constant 1 "master" { payload := .text masterKey },
    .constant 2 "token" { payload := .text payload, decryptWith := some "master" }]).catalog
  depth := depth

/-- The two configs of a locker. -/
theorem locker_config? (payload : String) (depth : Nat) :
    (locker payload depth).catalog.config? "master" =
      some (.constant 1 "master" { payload := .text masterKey }) ∧
    (locker payload depth).catalog.config? "token" =
      some (.constant 2 "token" { payload := .text payload, decryptWith := some "master" }) :=
  ⟨(Store.ofConfigs_config? _ none _).trans rfl, (Store.ofConfigs_config? _ none _).trans rfl⟩

/-- The key is served at every level. -/
theorem locker_key (payload : String) (depth left count : Nat) : ∃ resolution,
    resolveAt ∅ left ((locker payload depth).skip count) "master" = .ok resolution ∧
      resolution.value = some { payload := .text masterKey } :=
  ⟨_, resolveAt_unconditional _ ∅ "master" left 1 "master" _ _ ⟨by simp, by simp, rfl⟩
    (locker_config? payload depth).1, rfl⟩

/-- The secret is decided as it is. -/
theorem locker_secret (payload : String) (depth : Nat) :
    (locker payload depth).decided? ∅ "token" =
      some { payload := .text payload, decryptWith := some "master" } := by
  refine (decided?_some_iff ..).mpr
    ⟨{ payload := .text payload, decryptWith := some "master" }, none, ?_, rfl⟩
  simp [selected?, (locker_config? payload depth).2, Catalog.evaluate_constant]

/-- A text beyond ASCII, sealed with a long nonce, is recovered from a secret. -/
theorem locker_recovers_token :
    Secret.IsKey masterKey ∧ Secret.IsNonce (List.replicate 16 3) ∧
    ∃ payload, Secret.encrypt masterKey "schlüssel" (List.replicate 16 3) = .ok payload ∧
      (locker payload 1).KeyServes ∅ "token" "master" masterKey ∧
      ∃ resolution, (locker payload 1).resolve ∅ "token" = .ok resolution ∧ resolution.value =
        some { payload := .text "schlüssel", confidential := true, decryptWith := none } := by
  have isNonce : Secret.IsNonce (List.replicate 16 3) := .inr rfl
  obtain ⟨payload, sealed, -, -, recovered, -⟩ :=
    sealed_text_recovered masterKey "schlüssel" (List.replicate 16 3) masterKey_isKey isNonce
  have serves : (locker payload 1).KeyServes ∅ "token" "master" masterKey := by
    obtain ⟨inner, resolved, value⟩ := locker_key payload 1 0 _
    exact ⟨0, inner, _, rfl, resolved, value, rfl⟩
  exact ⟨masterKey_isKey, isNonce, payload, sealed, serves,
    recovered (locker payload 1) ∅ "token" "master" _ rfl (locker_secret payload 1) rfl rfl serves⟩

/-- Where no key may be resolved for a secret, the secret is not opened, though its key is served
when it is asked for. -/
theorem locker_too_shallow :
    ∃ payload, Secret.encrypt masterKey "hunter2" (List.replicate 12 7) = .ok payload ∧
      (∃ resolution, (locker payload 0).resolve ∅ "master" = .ok resolution ∧
        resolution.value = some { payload := .text masterKey }) ∧
      (locker payload 0).resolve ∅ "token" =
        .error (.undecryptable (.chainTooDeep "master")) := by
  obtain ⟨payload, sealed, -, -⟩ :=
    Secret.encrypt_opens masterKey "hunter2" (List.replicate 12 7) masterKey_isKey (.inl rfl)
  obtain ⟨config, found, arm, closed⟩ := resolveAt_secret ∅ 0 (locker payload 0) "token" _ _ _
    (locker_secret payload 0) rfl rfl
  exact ⟨payload, sealed, locker_key payload 0 0 0, closed⟩

end Resolver

end LiveConfig
