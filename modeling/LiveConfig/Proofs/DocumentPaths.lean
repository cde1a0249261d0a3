import LiveConfig.Proofs.NodeEquality
import LiveConfig.Proofs.Outcome
import LiveConfig.Store.Document

/-!
# Paths of a document

A site of a document is a node that stands for a config, with the chain of keys that leads to it: a
leaf, or a mapping that is a flag. The name of a site joins the keys of its chain with dots, leaving
out each `_`. This says nothing about how a document is walked, with the path so far in hand;
`configs_iff` relates the two. A document loads exactly if all keys on the way to its sites have a
text and each site gives a config under its name, and it gives these configs in the order of the
sites.

Different chains share a name where a key is `_` or has dots in it. Chains that begin with `_`, or
with an empty key, are no part of the document: not even their keys are read.
-/

namespace LiveConfig.Document

open Yaml (Node)

/-- Whether a mapping has the key of a flag. -/
def carriesFlag (entries : Entries) : Bool :=
  (Node.entry? "feature_flag" entries).isSome

/-- A chain of keys leads from the entries of a mapping to a node: each key but the last one stands
for a mapping, which is no flag. -/
inductive Leads : Entries → List Node → Node → Prop
  | last {entries : Entries} {k v : Node} (member : (k, v) ∈ entries) : Leads entries [k] v
  | step {entries inner : Entries} {k v : Node} {chain : List Node}
      (member : (k, .mapping inner) ∈ entries) (plain : carriesFlag inner = false)
      (further : Leads inner chain v) : Leads entries (k :: chain) v

/-- A node and the chain of keys that leads to it. -/
structure Site where
  chain : List Node
  node : Node
deriving DecidableEq

/-- The site that a key leads to, given the site within what the key stands for. -/
def Site.below (k : Node) (s : Site) : Site :=
  { s with chain := k :: s.chain }

/-- The keys of a chain that count for a name, in text. -/
def segments (chain : List Node) : List String :=
  (chain.filterMap scalarText?).filter (· != selfKey)

/-- The name of a site. -/
def Site.name (s : Site) : String :=
  ".".intercalate (segments s.chain)

/-- Whether a chain begins with a key that has no path of its own at the root. -/
def ignored (chain : List Node) : Bool :=
  (chain.head?.bind scalarText?).any fun key => key == selfKey || key == ""

mutual

/-- The sites within a node, in the order of the document. -/
def nodeSites : Node → List Site
  | .null => []
  | .mapping entries =>
    if carriesFlag entries then [{ chain := [], node := .mapping entries }]
    else entrySites entries
  | leaf => [{ chain := [], node := leaf }]

/-- The sites within the entries of a mapping. -/
def entrySites : Entries → List Site
  | [] => []
  | (k, v) :: rest => (nodeSites v).map (Site.below k) ++ entrySites rest

end

/-- The sites of a document, of which those with an ignored chain are none. -/
def sites (entries : Entries) : List Site :=
  (entrySites entries).filter fun s => !ignored s.chain

/-- The config that a site gives under a name. -/
def siteConfig (name : String) : Node → Except ConfigError Config
  | .mapping entries => flagConfig name entries
  | leaf => leafConfig name leaf

/-- The path that a chain leads to from a path, one key after the other. -/
def extend (path : String) (chain : List Node) : String :=
  (chain.filterMap scalarText?).foldl join path

/-- The config that a site gives, for the sites within what stands at a path. -/
def Gives (path : String) (s : Site) (c : Config) : Prop :=
  siteConfig (extend path s.chain) s.node = .ok c

/-- All keys on the way down from the entries of a mapping have a text, for chains that count. -/
def Readable (counts : List Node → Prop) (entries : Entries) : Prop :=
  ∀ chain node, Leads entries chain node → counts chain → ∀ k ∈ chain, (scalarText? k).isSome

/-- All keys on the way down from the root have a text, for chains that are not ignored. -/
def RootReadable (entries : Entries) : Prop :=
  Readable (fun chain => ignored chain = false) entries

/-- All keys on the way down from a node have a text. -/
def NodeReadable (node : Node) : Prop :=
  ∀ entries, node = .mapping entries → carriesFlag entries = false →
    Readable (fun _ => True) entries

/-- The path of a key is empty only at the root, for a key that is ignored there. -/
theorem join_eq_empty_iff (path key : String) :
    join path key = "" ↔ path = "" ∧ (key = selfKey ∨ key = "") := by
  unfold join
  split
  · simp [*]
  · split <;> simp_all [String.isEmpty_iff]

/-- A path within another one is its name and the dotted keys behind it. -/
theorem extend_below (path : String) (chain : List Node) (below : path ≠ "") :
    extend path chain = ".".intercalate (path :: segments chain) := by
  unfold extend segments
  induction chain.filterMap scalarText? generalizing path with
  | nil => rfl
  | cons key keys inductionHypothesis =>
    rw [List.foldl_cons]
    by_cases self : key = selfKey
    · rw [join, if_pos self, inductionHypothesis path below,
        List.filter_cons_of_neg (by simp [self])]
    · have nonempty : join path key ≠ "" := fun none => below ((join_eq_empty_iff ..).mp none).1
      rw [inductionHypothesis _ nonempty, List.filter_cons_of_pos (by simp [self]), join,
        if_neg self, if_neg (by simpa using below)]
      rfl

/-- The path that a chain leads to from the root is its name, if the chain is not ignored and its
first key has a text. -/
theorem extend_root (k : Node) (chain : List Node) (node : Node) (key : String)
    (text : scalarText? k = some key) (visible : ignored (k :: chain) = false) :
    extend "" (k :: chain) = Site.name { chain := k :: chain, node } := by
  simp only [ignored, List.head?_cons, Option.bind_some, text, Option.any_some,
    Bool.or_eq_false_iff, beq_eq_false_iff_ne] at visible
  have first : join "" key = key := by simp [join, visible.1]
  have path : extend "" (k :: chain) = extend key chain := by
    simp [extend, text, first]
  rw [path, extend_below key chain visible.2, Site.name, segments, segments,
    List.filterMap_cons_some text, List.filter_cons_of_pos (by simpa using visible.1)]

/-- What corresponds to two lists in a row corresponds to each of them. -/
theorem forall₂_append_left_iff {α β : Type} {R : α → β → Prop} (xs ys : List α) (zs : List β) :
    List.Forall₂ R (xs ++ ys) zs ↔
      ∃ here others, List.Forall₂ R xs here ∧ List.Forall₂ R ys others ∧ here ++ others = zs := by
  induction xs generalizing zs with
  | nil => simp
  | cons x rest inductionHypothesis =>
    simp only [List.cons_append, List.forall₂_cons_left_iff, inductionHypothesis]
    constructor
    · rintro ⟨z, _, first, ⟨here, others, front, back, rfl⟩, rfl⟩
      exact ⟨z :: here, others, ⟨z, here, first, front, rfl⟩, back, rfl⟩
    · rintro ⟨_, others, ⟨z, here, first, front, rfl⟩, back, rfl⟩
      exact ⟨z, here ++ others, first, ⟨here, others, front, back, rfl⟩, rfl⟩

/-- Nothing leads into an empty mapping. -/
theorem not_leads_nil (chain : List Node) (node : Node) : ¬ Leads [] chain node := by
  rintro (member | ⟨member, -, -⟩)
  all_goals exact absurd member List.not_mem_nil

/-- A chain into a mapping ends at its first entry, goes on below it, or is one into the others. -/
theorem leads_cons_iff (k v node : Node) (rest : Entries) (chain : List Node) :
    Leads ((k, v) :: rest) chain node ↔ chain = [k] ∧ node = v ∨
      (∃ inner further, v = .mapping inner ∧ carriesFlag inner = false ∧ chain = k :: further ∧
        Leads inner further node) ∨ Leads rest chain node := by
  constructor
  · rintro (⟨member⟩ | ⟨member, plain, further⟩)
    · rcases List.mem_cons.mp member with same | later
      · obtain ⟨rfl, rfl⟩ := Prod.mk.inj same
        exact .inl ⟨rfl, rfl⟩
      · exact .inr (.inr (.last later))
    · rcases List.mem_cons.mp member with same | later
      · obtain ⟨rfl, rfl⟩ := Prod.mk.inj same
        exact .inr (.inl ⟨_, _, rfl, plain, rfl, further⟩)
      · exact .inr (.inr (.step later plain further))
  · rintro (⟨rfl, rfl⟩ | ⟨inner, further, rfl, plain, rfl, leads⟩ | leads)
    · exact .last List.mem_cons_self
    · exact .step List.mem_cons_self plain leads
    · cases leads with
      | last member => exact .last (List.mem_cons_of_mem _ member)
      | step member plain further => exact .step (List.mem_cons_of_mem _ member) plain further

/-- Where a chain counts by its first key, the keys on the way down are the first one and those
below it, if it counts, and those of the others. -/
theorem readable_cons_iff (counts : List Node → Prop)
    (byFirst : ∀ k chain, counts (k :: chain) ↔ counts [k]) (k v : Node) (rest : Entries) :
    Readable counts ((k, v) :: rest) ↔
      (counts [k] → (scalarText? k).isSome ∧ NodeReadable v) ∧ Readable counts rest := by
  constructor
  · intro readable
    refine ⟨fun count => ⟨?_, ?_⟩, ?_⟩
    · exact readable [k] v (.last List.mem_cons_self) count k List.mem_cons_self
    · rintro entries rfl plain chain node leads - key member
      exact readable (k :: chain) node (.step List.mem_cons_self plain leads)
        ((byFirst k chain).mpr count) key (List.mem_cons_of_mem k member)
    · intro chain node leads
      exact readable chain node ((leads_cons_iff ..).mpr (.inr (.inr leads)))
  · rintro ⟨first, others⟩ chain node leads count key member
    rcases (leads_cons_iff ..).mp leads with
      ⟨rfl, -⟩ | ⟨inner, further, rfl, plain, rfl, inside⟩ | later
    · rw [List.mem_singleton.mp member]
      exact (first count).1
    · obtain ⟨text, below⟩ := first ((byFirst k further).mp count)
      rcases List.mem_cons.mp member with rfl | deeper
      · exact text
      · exact below inner rfl plain further node inside trivial key deeper
    · exact others chain node later count key member

/-- A mapping without entries has no keys to be read. -/
theorem readable_nil (counts : List Node → Prop) : Readable counts [] :=
  fun chain node leads => absurd leads (not_leads_nil chain node)

/-- A key is read as its text. -/
theorem keyText_ok_iff (k : Node) (key : String) :
    keyText k = .ok key ↔ scalarText? k = some key := by
  unfold keyText
  cases scalarText? k <;> simp

/-- The configs of entries are those of the first one, which has none if its path is empty, and
those of the others. -/
theorem entryConfigs_cons_iff (path : String) (k v : Node) (rest : Entries)
    (configs : List Config) : entryConfigs path ((k, v) :: rest) = .ok configs ↔
      ∃ key, scalarText? k = some key ∧ ∃ here others,
        (if join path key = "" then here = [] else nodeConfigs (join path key) v = .ok here) ∧
        entryConfigs path rest = .ok others ∧ here ++ others = configs := by
  simp only [entryConfigs, Outcome.bind_ok_iff, keyText_ok_iff]
  refine exists_congr fun key => and_congr_right fun _ => ?_
  by_cases none : join path key = ""
  · simp [none, Outcome.bind_ok_iff, pure, Except.pure]
  · simp [none, Outcome.bind_ok_iff, pure, Except.pure]

/-- One step gives the configs of one site. -/
theorem single_ok_iff (outcome : Except ConfigError Config) (configs : List Config) :
    (do return [← outcome]) = .ok configs ↔ ∃ c, outcome = .ok c ∧ configs = [c] := by
  cases outcome <;> simp [bind, Except.bind, pure, Except.pure, eq_comm]

/-- A node that is a site of its own gives one config. -/
theorem forall₂_gives_single (path : String) (node : Node) (configs : List Config) :
    List.Forall₂ (Gives path) [{ chain := [], node }] configs ↔
      ∃ c, siteConfig path node = .ok c ∧ configs = [c] := by
  rw [List.forall₂_cons_left_iff]
  simp only [List.forall₂_nil_left_iff, Gives]
  constructor
  · rintro ⟨c, _, gives, rfl, rfl⟩
    exact ⟨c, gives, rfl⟩
  · rintro ⟨c, gives, rfl⟩
    exact ⟨c, [], gives, rfl, rfl⟩

/-- What is no mapping has no keys to be read. -/
theorem nodeReadable_leaf (node : Node) (leaf : ∀ entries, node ≠ .mapping entries) :
    NodeReadable node :=
  fun entries mapping => absurd mapping (leaf entries)

/-- A node that gives one config, and is a site of its own, has this config. -/
theorem nodeConfigs_leaf (path : String) (configs : List Config) (node : Node)
    (leaf : ∀ entries, node ≠ .mapping entries)
    (one : nodeConfigs path node = do return [← siteConfig path node])
    (site : nodeSites node = [{ chain := [], node }]) :
    nodeConfigs path node = .ok configs ↔
      NodeReadable node ∧ List.Forall₂ (Gives path) (nodeSites node) configs := by
  rw [one, site, single_ok_iff, forall₂_gives_single]
  exact (and_iff_right (nodeReadable_leaf node leaf)).symm

/-- A key on the way is a step of the path. -/
theorem extend_cons (path key : String) (k : Node) (chain : List Node)
    (text : scalarText? k = some key) :
    extend path (k :: chain) = extend (join path key) chain := by
  simp [extend, text]

mutual

/-- What stands at a path has configs exactly if its keys can be read and its sites give them. -/
theorem nodeConfigs_iff (path : String) (below : path ≠ "") (configs : List Config) :
    (node : Node) → (nodeConfigs path node = .ok configs ↔
      NodeReadable node ∧ List.Forall₂ (Gives path) (nodeSites node) configs)
  | .mapping entries => by
    have flag : isFlag path entries = carriesFlag entries := by
      simp [isFlag, carriesFlag, below]
    rw [nodeConfigs, flag, nodeSites]
    cases carries : carriesFlag entries with
    | true =>
      have unread : NodeReadable (.mapping entries) := by
        rintro _ ⟨rfl⟩ plain
        simp [carries] at plain
      rw [if_pos rfl, if_pos rfl, single_ok_iff, forall₂_gives_single]
      exact (and_iff_right unread).symm
    | false =>
      have readable : NodeReadable (.mapping entries) ↔ Readable (fun _ => True) entries := by
        constructor
        · exact fun all => all entries rfl carries
        · rintro all _ ⟨rfl⟩ -
          exact all
      simp only [Bool.false_eq_true, if_false, readable]
      exact entryConfigs_iff path below configs entries
  | .null => by
    rw [nodeConfigs, nodeSites, List.forall₂_nil_left_iff, Except.ok.injEq]
    exact eq_comm.trans (and_iff_right (nodeReadable_leaf .null (by simp))).symm
  | .bool b => nodeConfigs_leaf path configs (.bool b) (by simp) rfl rfl
  | .number n => nodeConfigs_leaf path configs (.number n) (by simp) rfl rfl
  | .text s => nodeConfigs_leaf path configs (.text s) (by simp) rfl rfl
  | .sequence items => nodeConfigs_leaf path configs (.sequence items) (by simp) rfl rfl
  | .tagged tag content => nodeConfigs_leaf path configs (.tagged tag content) (by simp) rfl rfl
termination_by structural node => node

/-- Entries below the root have configs exactly if their keys can be read and their sites give
them. -/
theorem entryConfigs_iff (path : String) (below : path ≠ "") (configs : List Config) :
    (entries : Entries) → (entryConfigs path entries = .ok configs ↔
      Readable (fun _ => True) entries ∧
        List.Forall₂ (Gives path) (entrySites entries) configs)
  | [] => by
    rw [entryConfigs, entrySites, List.forall₂_nil_left_iff, Except.ok.injEq]
    exact eq_comm.trans (and_iff_right (readable_nil _)).symm
  | (k, v) :: rest => by
    rw [entryConfigs_cons_iff, readable_cons_iff _ fun _ _ => Iff.rfl, entrySites,
      forall₂_append_left_iff]
    simp only [List.forall₂_map_left_iff]
    constructor
    · rintro ⟨key, text, here, others, first, later, rfl⟩
      have nonempty : join path key ≠ "" := fun none => below ((join_eq_empty_iff ..).mp none).1
      rw [if_neg nonempty, nodeConfigs_iff _ nonempty here v] at first
      rw [entryConfigs_iff path below others rest] at later
      refine ⟨⟨fun _ => ⟨by simp [text], first.1⟩, later.1⟩, here, others, ?_, later.2, rfl⟩
      refine first.2.imp fun s c gives => ?_
      rwa [Gives, Site.below, extend_cons path key k _ text]
    · rintro ⟨⟨readable, outside⟩, here, others, first, later, rfl⟩
      obtain ⟨some, inside⟩ := readable trivial
      obtain ⟨key, text⟩ := Option.isSome_iff_exists.mp some
      have nonempty : join path key ≠ "" := fun none => below ((join_eq_empty_iff ..).mp none).1
      refine ⟨key, text, here, others, ?_, ?_, rfl⟩
      · rw [if_neg nonempty, nodeConfigs_iff _ nonempty here v]
        refine ⟨inside, first.imp fun s c gives => ?_⟩
        rwa [Gives, Site.below, extend_cons path key k _ text] at gives
      · rw [entryConfigs_iff path below others rest]
        exact ⟨outside, later⟩
termination_by structural entries => entries

end

/-- Whether a chain is ignored is up to its first key. -/
theorem ignored_cons (k : Node) (chain : List Node) : ignored (k :: chain) = ignored [k] :=
  rfl

/-- A key is ignored if its path at the root is empty. -/
theorem ignored_iff (k : Node) (key : String) (text : scalarText? k = some key) :
    ignored [k] = true ↔ join "" key = "" := by
  rw [join_eq_empty_iff]
  simp [ignored, text]

/-- The keys that count in a document are the first one, those below it unless it is ignored, and
those of the others. -/
theorem rootReadable_cons_iff (k v : Node) (rest : Entries) : RootReadable ((k, v) :: rest) ↔
    (scalarText? k).isSome ∧ (ignored [k] = false → NodeReadable v) ∧ RootReadable rest := by
  have text (hidden : ignored [k] = true) : (scalarText? k).isSome := by
    cases found : scalarText? k with
    | none => simp [ignored, found] at hidden
    | some key => rfl
  rw [RootReadable, readable_cons_iff _ fun k chain => by rw [ignored_cons], ← and_assoc]
  refine and_congr_left fun _ => ?_
  cases visible : ignored [k] with
  | true => simp [text visible]
  | false => simp

/-- The sites of a document are those below its first key, unless it is ignored, and those of the
others. -/
theorem sites_cons (k v : Node) (rest : Entries) : sites ((k, v) :: rest) =
    (if ignored [k] = true then [] else (nodeSites v).map (Site.below k)) ++ sites rest := by
  have same : ((nodeSites v).map (Site.below k)).filter (fun s => !ignored s.chain) =
      if ignored [k] = true then [] else (nodeSites v).map (Site.below k) := by
    rw [List.filter_map]
    have alike (s : Site) : ((fun s => !ignored s.chain) ∘ Site.below k) s = !ignored [k] := rfl
    rw [List.filter_congr fun s _ => alike s]
    cases ignored [k] <;> simp
  rw [sites, entrySites, List.filter_append, same, sites]

/-- What the sites below a key of the root give under the path of that key, they give under their
names. -/
theorem gives_below_iff (k : Node) (key : String) (text : scalarText? k = some key)
    (visible : ignored [k] = false) (s : Site) (c : Config) :
    Gives (join "" key) s c ↔ siteConfig (s.below k).name (s.below k).node = .ok c := by
  rw [Gives, ← extend_cons "" key k s.chain text,
    extend_root k s.chain s.node key text visible]
  rfl

/-- A document has configs exactly if the keys that count can be read and each site gives a config
under its name; these are the configs, in the order of the sites. -/
theorem configs_iff (entries : Entries) (configs : List Config) :
    entryConfigs "" entries = .ok configs ↔ RootReadable entries ∧
      List.Forall₂ (fun s c => siteConfig s.name s.node = .ok c) (sites entries) configs := by
  induction entries generalizing configs with
  | nil =>
    rw [entryConfigs, sites, entrySites, List.filter_nil, List.forall₂_nil_left_iff,
      Except.ok.injEq]
    exact eq_comm.trans (and_iff_right (readable_nil _)).symm
  | cons entry rest inductionHypothesis =>
    obtain ⟨k, v⟩ := entry
    rw [entryConfigs_cons_iff, rootReadable_cons_iff, sites_cons, forall₂_append_left_iff]
    simp only [inductionHypothesis]
    -- The two sides agree on what stands below the first key.
    have first (key : String) (text : scalarText? k = some key) (here : List Config) :
        (if join "" key = "" then here = [] else nodeConfigs (join "" key) v = .ok here) ↔
          (ignored [k] = false → NodeReadable v) ∧
          List.Forall₂ (fun s c => siteConfig s.name s.node = .ok c)
            (if ignored [k] = true then [] else (nodeSites v).map (Site.below k)) here := by
      have empty := ignored_iff k key text
      cases visible : ignored [k] with
      | true => simp [empty.mp visible, List.forall₂_nil_left_iff]
      | false =>
        have nonempty : join "" key ≠ "" := fun none => by simp [empty.mpr none] at visible
        rw [if_neg nonempty, nodeConfigs_iff _ nonempty here v]
        simp only [Bool.false_eq_true, if_false, forall_const, List.forall₂_map_left_iff,
          ← gives_below_iff k key text visible]
    constructor
    · rintro ⟨key, text, here, others, front, ⟨readable, back⟩, rfl⟩
      obtain ⟨below, given⟩ := (first key text here).mp front
      exact ⟨⟨by simp [text], below, readable⟩, here, others, given, back, rfl⟩
    · rintro ⟨⟨some, below, readable⟩, here, others, given, back, rfl⟩
      obtain ⟨key, text⟩ := Option.isSome_iff_exists.mp some
      exact ⟨key, text, here, others, (first key text here).mpr ⟨below, given⟩,
        ⟨readable, back⟩, rfl⟩

/-- What is a site of its own: what is not null, and a mapping only if it is a flag. -/
def Standing (node : Node) : Prop :=
  node ≠ .null ∧ ∀ inner, node = .mapping inner → carriesFlag inner = true

/-- A leaf is the only site within itself. -/
theorem mem_leafSites_iff (s : Site) (node : Node) (present : node ≠ .null)
    (leaf : ∀ inner, node ≠ .mapping inner) (one : nodeSites node = [{ chain := [], node }]) :
    s ∈ nodeSites node ↔ Standing s.node ∧
      (s.chain = [] ∧ s.node = node ∨ ∃ inner, node = .mapping inner ∧
        carriesFlag inner = false ∧ Leads inner s.chain s.node) := by
  obtain ⟨chain, here⟩ := s
  rw [one, List.mem_singleton, Site.mk.injEq]
  constructor
  · rintro ⟨rfl, rfl⟩
    exact ⟨⟨present, fun inner mapping => absurd mapping (leaf inner)⟩, .inl ⟨rfl, rfl⟩⟩
  · rintro ⟨-, same | ⟨inner, mapping, -⟩⟩
    · exact same
    · exact absurd mapping (leaf inner)

mutual

/-- The sites within a node are the node itself, if it stands for a config, and what the chains
below it lead to. -/
theorem mem_nodeSites_iff (s : Site) : (node : Node) → (s ∈ nodeSites node ↔ Standing s.node ∧
    (s.chain = [] ∧ s.node = node ∨ ∃ inner, node = .mapping inner ∧ carriesFlag inner = false ∧
      Leads inner s.chain s.node))
  | .mapping entries => by
    obtain ⟨chain, node⟩ := s
    rw [nodeSites]
    cases carries : carriesFlag entries with
    | true =>
      simp only [if_true, List.mem_singleton, Site.mk.injEq, Standing, Node.mapping.injEq]
      constructor
      · rintro ⟨rfl, rfl⟩
        exact ⟨⟨by simp, by rintro _ ⟨rfl⟩; exact carries⟩, .inl ⟨rfl, rfl⟩⟩
      · rintro ⟨-, here | ⟨inner, rfl, plain, -⟩⟩
        · exact here
        · simp [carries] at plain
    | false =>
      simp only [Bool.false_eq_true, if_false, mem_entrySites_iff _ entries]
      refine and_congr_right fun standing => ?_
      constructor
      · exact fun leads => .inr ⟨entries, rfl, carries, leads⟩
      · rintro (⟨-, same⟩ | ⟨inner, same, -, leads⟩)
        · simp [standing.2 entries same] at carries
        · obtain rfl := Node.mapping.inj same
          exact leads
  | .null => by
    simp only [nodeSites, List.not_mem_nil, false_iff]
    rintro ⟨standing, ⟨-, null⟩ | ⟨inner, mapping, -⟩⟩
    · exact standing.1 null
    · cases mapping
  | .bool b => mem_leafSites_iff s (.bool b) (by simp) (by simp) rfl
  | .number n => mem_leafSites_iff s (.number n) (by simp) (by simp) rfl
  | .text t => mem_leafSites_iff s (.text t) (by simp) (by simp) rfl
  | .sequence items => mem_leafSites_iff s (.sequence items) (by simp) (by simp) rfl
  | .tagged tag content => mem_leafSites_iff s (.tagged tag content) (by simp) (by simp) rfl
termination_by structural node => node

/-- The sites within the entries of a mapping are what the chains into them lead to. -/
theorem mem_entrySites_iff (s : Site) : (entries : Entries) →
    (s ∈ entrySites entries ↔ Standing s.node ∧ Leads entries s.chain s.node)
  | [] => by
    simp only [entrySites, List.not_mem_nil, false_iff]
    exact fun found => not_leads_nil s.chain s.node found.2
  | (k, v) :: rest => by
    obtain ⟨chain, node⟩ := s
    have first (within : Site) := mem_nodeSites_iff within v
    rw [entrySites, List.mem_append, List.mem_map, mem_entrySites_iff _ rest, leads_cons_iff]
    constructor
    · rintro (⟨⟨below, _⟩, member, same⟩ | ⟨standing, later⟩)
      · obtain ⟨rfl, rfl⟩ := Site.mk.inj same
        obtain ⟨standing, ⟨rfl, rfl⟩ | ⟨inner, rfl, plain, leads⟩⟩ := (first _).mp member
        · exact ⟨standing, .inl ⟨rfl, rfl⟩⟩
        · exact ⟨standing, .inr (.inl ⟨inner, below, rfl, plain, rfl, leads⟩)⟩
      · exact ⟨standing, .inr (.inr later)⟩
    · rintro ⟨standing, ⟨rfl, rfl⟩ | ⟨inner, below, rfl, plain, rfl, leads⟩ | later⟩
      · exact .inl ⟨⟨[], node⟩, (first _).mpr ⟨standing, .inl ⟨rfl, rfl⟩⟩, rfl⟩
      · exact .inl ⟨⟨below, node⟩, (first _).mpr ⟨standing, .inr ⟨inner, rfl, plain, leads⟩⟩, rfl⟩
      · exact .inr ⟨standing, later⟩
termination_by structural entries => entries

end

/-- The sites of a document are what its chains lead to, unless they are ignored. -/
theorem mem_sites_iff (s : Site) (entries : Entries) : s ∈ sites entries ↔
    Standing s.node ∧ Leads entries s.chain s.node ∧ ignored s.chain = false := by
  rw [sites, List.mem_filter, mem_entrySites_iff, Bool.not_eq_true', and_assoc]

end LiveConfig.Document
