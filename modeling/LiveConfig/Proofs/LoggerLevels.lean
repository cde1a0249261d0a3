import Mathlib.Data.List.Chain
import LiveConfig.Proofs.ClientRuns

/-!
# Levels of loggers

The level of a logger is looked for under its own name and under every name that is left when it is
cut before a dot, and the longest of these names that serves a level counts. `LevelName` says which
names there are without cutting anything; dots may lead, trail and repeat. They are what is left of
the longest one when it is cut at its last dot again and again: `levelKeys_chain`.

`level_of_longest_name` holds for every client that lookups may pass, with any contexts bound to it.
Names under which nothing is found, nothing matches, resolution fails or a value of another type is
served are passed over alike. Each name is resolved when it has its turn: a split that no property
decides takes the fraction of chance that the longer names have left.
-/

namespace LiveConfig.Client

/-- A name under which the level of a logger is looked for: the logger's own, which an empty logger
does not have, or one that goes on with a dot there. -/
def LevelName (logger name : String) : Prop :=
  (logger ≠ "" ∧ name = "log-level." ++ logger) ∨
    ∃ rest, "log-level." ++ logger = name ++ "." ++ rest

/-- The client that is left when keys have been asked for in turn. -/
def asked (c : Client) (bound : List Context) (keys : List String) : Client :=
  keys.foldl (fun c key => (c.resolveNow bound key ∅).2) c

/-- What a key resolves to, with nothing but the bound contexts, is a level. -/
def ServesLevel (c : Client) (bound : List Context) (key : String) (level : LogLevel) : Prop :=
  ∃ resolution value, c.resolver.resolve (c.callContext bound ∅) key = .ok resolution ∧
    resolution.value = some value ∧ value.payload = .logLevel level

/-- Whether a key takes fractions of chance. -/
def Draws (c : Client) (bound : List Context) (key : String) : Prop :=
  Resolver.drawsAt (c.callContext bound ∅) c.options.depth c.resolver key ≠ 0

/-- The client when a key has its turn: the longer ones have been asked for. -/
def turnOf (c : Client) (bound : List Context) (keys : List String) (key : String) : Client :=
  c.asked bound (keys.filter (key.length < ·.length))

/-- What a key serves when it has its turn among others is a level. -/
def LevelInTurn (c : Client) (bound : List Context) (keys : List String) (key : String)
    (level : LogLevel) : Prop :=
  (c.turnOf bound keys key).ServesLevel bound key level

/-- A level is that of the longest name that has one. -/
def IsLongest (isName : String → Prop) (has : String → LogLevel → Prop) (level : LogLevel) :
    Prop :=
  ∃ name, isName name ∧ has name level ∧
    ∀ other, isName other → name.length < other.length → ∀ any, ¬has other any

/-! ## Names -/

/-- What ends before a dot is what goes on with one. -/
theorem mem_beforeDots_iff (text cut : List Char) :
    cut ∈ beforeDots text ↔ ∃ rest, text = cut ++ '.' :: rest := by
  induction text generalizing cut with
  | nil => simp [beforeDots]
  | cons c text inductionHypothesis =>
    by_cases dot : c = '.'
    · cases cut <;> simp [beforeDots, dot, inductionHypothesis, and_comm]
    · cases cut <;> simp [beforeDots, dot, inductionHypothesis, and_comm]

/-- The shorter of two cuts stands first. -/
theorem beforeDots_ascending (text : List Char) :
    (beforeDots text).Pairwise fun a b => a.length < b.length := by
  induction text with
  | nil => exact .nil
  | cons c text inductionHypothesis =>
    have longer : ((beforeDots text).map (c :: ·)).Pairwise fun a b => a.length < b.length :=
      List.pairwise_map.mpr (inductionHypothesis.imp fun less => Nat.succ_lt_succ less)
    unfold beforeDots
    split
    · exact List.pairwise_cons.mpr ⟨by simp, longer⟩
    · exact longer

/-- What a character in front makes of the cuts of a text and the text itself. -/
theorem beforeDots_cons (c : Char) (text : List Char) :
    beforeDots (c :: text) ++ [c :: text] =
      (if c = '.' then [[]] else []) ++ (beforeDots text ++ [text]).map (c :: ·) := by
  by_cases dot : c = '.' <;> simp [beforeDots, dot]

/-- The first of the cuts, and the text itself if there is none, has no dot. -/
theorem noDot_of_first (text first : List Char)
    (isFirst : first ∈ (beforeDots text ++ [text]).head?) : '.' ∉ first := by
  induction text generalizing first with
  | nil =>
    obtain rfl : [] = first := by simpa [beforeDots] using isFirst
    exact List.not_mem_nil
  | cons c text inductionHypothesis =>
    rw [beforeDots_cons] at isFirst
    by_cases dot : c = '.'
    · obtain rfl : [] = first := by simpa [dot] using isFirst
      exact List.not_mem_nil
    · rw [if_neg dot, List.nil_append, List.head?_map] at isFirst
      obtain ⟨inner, innerFirst, rfl⟩ := Option.map_eq_some_iff.mp isFirst
      simpa [Ne.symm dot] using inductionHypothesis inner innerFirst

/-- Each cut is the next one cut at its last dot. -/
theorem beforeDots_chain (text : List Char) :
    (beforeDots text ++ [text]).IsChain fun shorter key =>
      ∃ rest, key = shorter ++ '.' :: rest ∧ '.' ∉ rest := by
  induction text with
  | nil => exact .singleton _
  | cons c text inductionHypothesis =>
    have moved : ((beforeDots text ++ [text]).map (c :: ·)).IsChain fun shorter key =>
        ∃ rest, key = shorter ++ '.' :: rest ∧ '.' ∉ rest := by
      refine (List.isChain_map _).mpr (inductionHypothesis.imp fun shorter key => ?_)
      rintro ⟨rest, rfl, noDot⟩
      exact ⟨rest, rfl, noDot⟩
    rw [beforeDots_cons]
    by_cases dot : c = '.'
    · rw [if_pos dot, List.singleton_append]
      refine List.isChain_cons.mpr ⟨fun first isFirst => ?_, moved⟩
      rw [List.head?_map] at isFirst
      obtain ⟨inner, innerFirst, rfl⟩ := Option.map_eq_some_iff.mp isFirst
      exact ⟨inner, by simp [dot], noDot_of_first text inner innerFirst⟩
    · rwa [if_neg dot, List.nil_append]

/-- The cuts of a text are the texts that go on with a dot there. -/
theorem mem_cuts_iff (text name : String) :
    name ∈ (beforeDots text.toList).map String.ofList ↔ ∃ rest, text = name ++ "." ++ rest := by
  constructor
  · rintro cut
    obtain ⟨chars, among, rfl⟩ := List.mem_map.mp cut
    obtain ⟨rest, split⟩ := (mem_beforeDots_iff text.toList chars).mp among
    refine ⟨String.ofList rest, String.toList_injective ?_⟩
    simpa using split
  · rintro ⟨rest, rfl⟩
    refine List.mem_map.mpr ⟨name.toList, (mem_beforeDots_iff _ _).mpr ⟨rest.toList, ?_⟩, ?_⟩
    · simp
    · simp

/-- The keys that are asked for a level are the logger's names. -/
theorem mem_levelKeys_iff (logger key : String) :
    key ∈ levelKeys logger ↔ LevelName logger key := by
  by_cases empty : logger = ""
  · subst empty
    have cuts := mem_cuts_iff "log-level." key
    have only : (beforeDots "log-level.".toList).map String.ofList = levelKeys "" := by decide
    rw [only] at cuts
    simpa [LevelName] using cuts
  · have own : levelKey logger = "log-level." ++ logger := by
      simp [levelKey, empty, Document.levelRoot]
    have cuts := mem_cuts_iff ("log-level." ++ logger) key
    rw [levelKeys, own, List.mem_cons, List.map_reverse, List.mem_reverse, cuts]
    simp [LevelName, empty]

/-- Of the keys that are asked for a level, the longer one has its turn first. -/
theorem levelKeys_descending (logger : String) :
    (levelKeys logger).Pairwise fun a b => b.length < a.length := by
  refine List.pairwise_cons.mpr ⟨fun key cut => ?_, ?_⟩
  · rw [List.map_reverse, List.mem_reverse, mem_cuts_iff] at cut
    obtain ⟨rest, split⟩ := cut
    have dot : ".".length = 1 := rfl
    rw [split, String.length_append, String.length_append]
    omega
  · rw [List.pairwise_map, List.pairwise_reverse]
    exact (beforeDots_ascending _).imp fun less => by simpa using less

/-- Each key that is asked for a level is the one before it cut at its last dot. -/
theorem levelKeys_chain (logger : String) :
    (levelKeys logger).IsChain fun key shorter =>
      ∃ rest, key = shorter ++ "." ++ rest ∧ '.' ∉ rest.toList := by
  have keys : levelKeys logger = ((beforeDots (levelKey logger).toList ++
      [(levelKey logger).toList]).map String.ofList).reverse := by simp [levelKeys]
  rw [keys, List.isChain_reverse, List.isChain_map]
  refine (beforeDots_chain _).imp fun shorter key => ?_
  rintro ⟨rest, rfl, noDot⟩
  exact ⟨String.ofList rest, String.toList_injective (by simp), by simpa using noDot⟩

/-! ## The longest of several keys -/

section Longest

variable {key : String} {rest : List String} {has later : String → LogLevel → Prop}

/-- If the longest of some keys has a level, no other counts. -/
theorem isLongest_head (shorter : ∀ other ∈ rest, other.length < key.length) (own : LogLevel)
    (owns : ∀ level, has key level ↔ own = level) (level : LogLevel) :
    IsLongest (· ∈ key :: rest) has level ↔ own = level := by
  constructor
  · rintro ⟨name, among, gives, longest⟩
    rcases List.mem_cons.mp among with rfl | among
    · exact (owns level).mp gives
    · exact absurd ((owns own).mpr rfl) (longest key List.mem_cons_self (shorter name among) own)
  · intro same
    refine ⟨key, List.mem_cons_self, (owns level).mpr same, fun other among longer => ?_⟩
    rcases List.mem_cons.mp among with rfl | among
    · exact absurd longer (lt_irrefl _)
    · exact absurd longer (shorter other among).not_gt

/-- If one of some keys has no level, the others count. -/
theorem isLongest_later (silent : ∀ any, ¬has key any)
    (same : ∀ other ∈ rest, ∀ level, has other level ↔ later other level) (level : LogLevel) :
    IsLongest (· ∈ key :: rest) has level ↔ IsLongest (· ∈ rest) later level := by
  constructor
  · rintro ⟨name, among, gives, longest⟩
    rcases List.mem_cons.mp among with rfl | among
    · exact absurd gives (silent level)
    · refine ⟨name, among, (same name among level).mp gives, fun other further longer any => ?_⟩
      rw [← same other further any]
      exact longest other (List.mem_cons_of_mem _ further) longer any
  · rintro ⟨name, among, gives, longest⟩
    refine ⟨name, List.mem_cons_of_mem _ among, (same name among level).mpr gives,
      fun other further longer any => ?_⟩
    rcases List.mem_cons.mp further with rfl | further
    · exact silent any
    · rw [same other further any]
      exact longest other further longer any

end Longest

/-! ## Turns -/

section Turns

variable (c : Client) (bound : List Context)

/-- Keys that have been asked for leave all but the recorder as it is, and some fractions of chance
less. -/
theorem asked_eq (keys : List String) :
    ∃ recorder drawn, c.asked bound keys =
      { c with recorder, chance := (c.resolver.skip drawn).chance } := by
  induction keys generalizing c with
  | nil => exact ⟨c.recorder, 0, rfl⟩
  | cons key rest inductionHypothesis =>
    obtain ⟨recorder, drawn, later⟩ := inductionHypothesis (c.resolveNow bound key ∅).2
    let full := c.callContext bound ∅
    refine ⟨recorder, drawn + Resolver.drawsAt full c.options.depth c.resolver key,
      later.trans ?_⟩
    simp only [resolveNow, observe, resolver, Resolver.after, Resolver.skip, Nat.add_assoc]
    rfl

/-- A key that is asked for gives a level exactly if it serves one. -/
theorem servesLevel_iff (key : String) (level : LogLevel) :
    c.ServesLevel bound key level ↔
      ((c.resolveNow bound key ∅).1.toOption.bind fun r => r.value >>= Value.logLevel?) =
        some level := by
  have typed (value : Value) : value.logLevel? = some level ↔ value.payload = .logLevel level := by
    unfold Value.logLevel?
    split <;> simp_all
  cases outcome : c.resolver.resolve (c.callContext bound ∅) key with
  | error error => simp [ServesLevel, resolveNow, outcome, Except.toOption]
  | ok resolution =>
    simp [ServesLevel, resolveNow, outcome, Except.toOption, Option.bind_eq_some_iff, typed]

/-- The longest key has its turn at once. -/
theorem turnOf_head (key : String) (rest : List String)
    (ordered : (key :: rest).Pairwise fun a b => b.length < a.length) :
    c.turnOf bound (key :: rest) key = c := by
  have none : (key :: rest).filter (key.length < ·.length) = [] := by
    refine List.filter_eq_nil_iff.mpr fun other member => ?_
    rcases List.mem_cons.mp member with rfl | later
    · simp
    · have shorter := List.rel_of_pairwise_cons ordered later
      simpa using shorter.le
  rw [turnOf, none]
  rfl

/-- The others have their turns when the longest one has been asked for. -/
theorem turnOf_later (key : String) (rest : List String)
    (ordered : (key :: rest).Pairwise fun a b => b.length < a.length) (other : String)
    (later : other ∈ rest) :
    c.turnOf bound (key :: rest) other =
      (c.resolveNow bound key ∅).2.turnOf bound rest other := by
  have longer : other.length < key.length := List.rel_of_pairwise_cons ordered later
  simp [turnOf, asked, longer]

/-- Of keys of which the longer ones come first, the longest one that serves a level counts. -/
theorem firstLevel_iff (keys : List String)
    (ordered : keys.Pairwise fun a b => b.length < a.length) :
    (∀ level, (c.firstLevel bound keys).1 = some level ↔
      IsLongest (· ∈ keys) (c.LevelInTurn bound keys) level) ∧
    ((c.firstLevel bound keys).1 = none ↔
      ∀ key ∈ keys, ∀ any, ¬c.LevelInTurn bound keys key any) := by
  induction keys generalizing c with
  | nil => simp [firstLevel, IsLongest]
  | cons key rest inductionHypothesis =>
    obtain ⟨served, unserved⟩ := inductionHypothesis (c.resolveNow bound key ∅).2 ordered.of_cons
    have later (other : String) (among : other ∈ rest) (level : LogLevel) :
        c.LevelInTurn bound (key :: rest) other level ↔
          (c.resolveNow bound key ∅).2.LevelInTurn bound rest other level := by
      rw [LevelInTurn, LevelInTurn, c.turnOf_later bound key rest ordered other among]
    have serves (level : LogLevel) :
        c.LevelInTurn bound (key :: rest) key level ↔
          ((c.resolveNow bound key ∅).1.toOption.bind fun r => r.value >>= Value.logLevel?) =
            some level := by
      rw [LevelInTurn, c.turnOf_head bound key rest ordered, servesLevel_iff]
    cases found : ((c.resolveNow bound key ∅).1.toOption.bind fun r =>
        r.value >>= Value.logLevel?) with
    | some own =>
      have first : (c.firstLevel bound (key :: rest)).1 = some own := by
        simp only [firstLevel, found]
      simp only [found, Option.some.injEq] at serves
      rw [first]
      refine ⟨fun level => ?_, fun gives => absurd gives (Option.some_ne_none own),
        fun silent => ?_⟩
      · rw [isLongest_head (fun _ => List.rel_of_pairwise_cons ordered) own serves,
          Option.some.injEq]
      · exact absurd ((serves own).mpr rfl) (silent key List.mem_cons_self own)
    | none =>
      have first : (c.firstLevel bound (key :: rest)).1 =
          ((c.resolveNow bound key ∅).2.firstLevel bound rest).1 := by
        simp only [firstLevel, found]
      simp only [found, reduceCtorEq, iff_false] at serves
      rw [first, unserved]
      refine ⟨fun level => ?_, ?_⟩
      · rw [served, isLongest_later serves later]
      · rw [List.forall_mem_cons, and_iff_right serves]
        exact forall₂_congr fun other among => forall_congr' fun any =>
          not_congr (later other among any).symm

/-- Keys that take no fractions leave the resolver as it is. -/
theorem asked_resolver (keys : List String) (undrawn : ∀ key ∈ keys, ¬c.Draws bound key) :
    (c.asked bound keys).resolver = c.resolver := by
  induction keys generalizing c with
  | nil => rfl
  | cons key rest inductionHypothesis =>
    have still : (c.resolveNow bound key ∅).2.resolver = c.resolver := by
      have none := not_not.mp (undrawn key List.mem_cons_self)
      simp only [resolveNow, resolver, Resolver.after, Resolver.skip] at none ⊢
      rw [none]
      rfl
    have later := inductionHypothesis (c.resolveNow bound key ∅).2 fun other among => by
      rw [Draws, still]
      exact undrawn other (List.mem_cons_of_mem _ among)
    exact later.trans still

/-- Where the longer keys take no fractions, it makes no difference that they have been asked. -/
theorem levelInTurn_iff (keys : List String) (undrawn : ∀ key ∈ keys, ¬c.Draws bound key)
    (key : String) (level : LogLevel) :
    c.LevelInTurn bound keys key level ↔ c.ServesLevel bound key level := by
  have same : (c.turnOf bound keys key).resolver = c.resolver :=
    c.asked_resolver bound _ fun other longer => undrawn other (List.mem_filter.mp longer).1
  obtain ⟨recorder, drawn, turned⟩ := c.asked_eq bound (keys.filter (key.length < ·.length))
  have context : (c.turnOf bound keys key).callContext bound ∅ = c.callContext bound ∅ := by
    rw [turnOf, turned]
    rfl
  rw [LevelInTurn, ServesLevel, ServesLevel, same, context]

end Turns

/-- The level of a logger, for any client that lookups may pass and with any contexts bound to it,
is that of the longest of its names that serves one when it has its turn, and there is none exactly
if no name does. When a name has its turn, the client is as it was at first but for what it has
recorded and for the fractions of chance that the longer names have taken; if no name takes any, it
serves what it would have served at first. -/
theorem level_of_longest_name (c ready : Client) (bound : List Context) (logger : String)
    (passes : c.await = (.ok (), ready)) :
    (∀ level, (c.logLevel bound logger).1 = some level ↔
      IsLongest (LevelName logger) (ready.LevelInTurn bound (levelKeys logger)) level) ∧
    ((c.logLevel bound logger).1 = none ↔ ∀ name, LevelName logger name →
      ∀ any, ¬ready.LevelInTurn bound (levelKeys logger) name any) ∧
    (∀ name, ∃ recorder drawn, ready.turnOf bound (levelKeys logger) name =
      { ready with recorder, chance := (ready.resolver.skip drawn).chance }) ∧
    ((∀ name, LevelName logger name → ¬ready.Draws bound name) →
      ready.LevelInTurn bound (levelKeys logger) = ready.ServesLevel bound) := by
  have walked : c.logLevel bound logger = ready.firstLevel bound (levelKeys logger) := by
    simp only [logLevel, passes]
  have names : LevelName logger = (· ∈ levelKeys logger) :=
    funext fun name => propext (mem_levelKeys_iff logger name).symm
  obtain ⟨served, unserved⟩ :=
    ready.firstLevel_iff bound (levelKeys logger) (levelKeys_descending logger)
  rw [walked, names]
  refine ⟨served, unserved, fun name => ready.asked_eq bound _, fun undrawn => ?_⟩
  funext name level
  exact propext (ready.levelInTurn_iff bound (levelKeys logger) undrawn name level)

/-- Options with values in memory: a level for all loggers, one for those of the database, and a
text between them. -/
def chatty : Options where
  supplies := some [.values (((∅ : Std.ExtTreeMap String Value)
    |>.insert "log-level" { payload := .logLevel .warn }
    |>.insert "log-level.app" { payload := .text "debug" }
    |>.insert "log-level.app.db" { payload := .logLevel .debug }))]

/-- The client of these options. -/
def talkative : Client where
  options := chatty
  layers := [.fixed (.ofValues
    [("log-level", { payload := .logLevel .warn }), ("log-level.app", { payload := .text "debug" }),
     ("log-level.app.db", { payload := .logLevel .debug })])]
  live := none
  gate := .opened
  recorder := none
  feed := none

/-- Dots may repeat in a logger's name, and the text is passed over. -/
theorem doubled_dots_serve_level :
    build chatty ∅ none = .ok talkative ∧ talkative.await = (.ok (), talkative) ∧
      (∀ name, LevelName "app.db..pool" name → ¬talkative.Draws [] name) ∧
      IsLongest (LevelName "app.db..pool") (talkative.ServesLevel []) .debug ∧
      IsLongest (LevelName "") (talkative.LevelInTurn [] (levelKeys "")) .warn := by
  have undrawn : ∀ name, LevelName "app.db..pool" name → ¬talkative.Draws [] name := by
    simp only [← mem_levelKeys_iff, Draws]
    decide +kernel
  have served : (talkative.logLevel [] "app.db..pool").1 = some .debug := by decide +kernel
  have root : (talkative.logLevel [] "").1 = some .warn := by decide +kernel
  obtain ⟨levels, -, -, alike⟩ := level_of_longest_name talkative talkative [] "app.db..pool" rfl
  refine ⟨rfl, rfl, undrawn, ?_, ?_⟩
  · rw [← alike undrawn]
    exact (levels .debug).mp served
  · exact ((level_of_longest_name talkative talkative [] "" rfl).1 .warn).mp root

end LiveConfig.Client
