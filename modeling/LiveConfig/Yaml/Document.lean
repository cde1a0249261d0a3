import LiveConfig.Yaml.Scalar
import LiveConfig.Yaml.Tree

/-!
# YAML documents

`parse?` reads a text that holds at most one document. Collections nest at most 128 deep, aliases
included, and a document of `n` parts may follow at most `100 n` aliases. No key of a mapping
occurs twice.
-/

namespace LiveConfig.Yaml

mutual

/-- The number of parts of a tree: a scalar or an alias is one, the ends of a collection are two. -/
def Tree.parts : Tree → Nat
  | .scalar .. => 1
  | .alias _ => 1
  | .sequence _ items => partsOfItems items + 2
  | .mapping _ entries => partsOfEntries entries + 2

/-- The number of parts of all items. -/
def partsOfItems : List Tree → Nat
  | [] => 0
  | item :: rest => item.parts + partsOfItems rest

/-- The number of parts of all entries. -/
def partsOfEntries : List (Tree × Tree) → Nat
  | [] => 0
  | (k, v) :: rest => k.parts + v.parts + partsOfEntries rest

end

/-- A step that may follow aliases, as long as some are left. -/
abbrev Resolving := StateT Nat Option

/-- The tree that an alias stands for, or the tree itself. -/
def follow (anchors : Anchors) (tree : Tree) : Resolving Tree := do
  match tree with
  | .alias n =>
    match ← get with
    | 0 => failure
    | left + 1 =>
      set left
      match anchors.tree? n with
      | some tree => return tree
      | none => failure
  | tree => return tree

/-- The name in a tag of the document's own. -/
def ownTag? : Option (List Char) → Option String
  | some ['!'] => some "!"
  | some ('!' :: name) => some (String.ofList name)
  | _ => none

/-- Puts a tag of the document's own around a node. -/
def withOwnTag (tag : Option (List Char)) (n : Node) : Node :=
  match ownTag? tag with
  | some name => .tagged name n
  | none => n

/-- What a scalar stands for. -/
def scalarNode? (tag : Option (List Char)) (text : List Char) (isPlain : Bool) : Option Node :=
  let s := String.ofList text
  match tag with
  | some name =>
    if (ownTag? tag).isSome then
      (if isPlain then resolvePlain? s else some (.text s)).map (withOwnTag tag)
    else resolveTagged? (String.ofList name) s
  | none => if isPlain then resolvePlain? s else some (.text s)

/-- Whether some key occurs twice. -/
def hasDuplicateKey : List (Node × Node) → Bool
  | [] => false
  | (k, _) :: rest => rest.any (fun (k', _) => k.same k') || hasDuplicateKey rest

/-- The node of a tree whose collections may nest to the given depth. -/
def resolve (anchors : Anchors) (depth : Nat) (tree : Tree) : Resolving Node := do
  match ← follow anchors tree with
  | .alias _ => failure
  | .scalar tag text isPlain => (scalarNode? tag text isPlain : Option Node)
  | .sequence tag items =>
    match depth with
    | 0 => failure
    | depth + 1 =>
      let nodes ← items.mapM (resolve anchors depth)
      return withOwnTag tag (.sequence nodes)
  | .mapping tag entries =>
    match depth with
    | 0 => failure
    | depth + 1 =>
      let nodes ← entries.mapM fun (k, v) => do
        let k ← resolve anchors depth k
        let v ← resolve anchors depth v
        return (k, v)
      if hasDuplicateKey nodes then failure
      else return withOwnTag tag (.mapping nodes)

/-- The greatest depth to which collections nest. -/
def maxDepth : Nat := 128

/-- The content of a text; null if it holds no document. -/
def parse? (text : String) : Option Node := do
  let tokens ← Token.scan? text
  match ← Tree.ofTokens? tokens with
  | (none, _) => some .null
  | (some tree, anchors) => (resolve anchors maxDepth tree).run' (100 * tree.parts)

end LiveConfig.Yaml
