import StagedRuns.Yaml.Node
import StagedRuns.Yaml.Token.Scan

/-!
Building nodes from tokens by recursive descent. A text holds one document. Where the tokens leave
out a node between two marks, it is an empty plain scalar.
-/

namespace StagedRuns.Yaml

structure Composer where
  tokens : List Token
  /-- The handles of tags and what they stand for. -/
  handles : List (String × List UInt8)
  /-- The names of anchors, each once, and their numbers. -/
  names : List (String × Nat)
  anchors : Nat
  anchored : List Anchored

namespace Composer

/-- Where a node stands, which decides what may begin it. -/
inductive Place where
  /-- In a flow collection: no block begins here. -/
  | flow
  | block
  /-- At a key or a value of a block mapping, where a sequence needs no indentation. -/
  | blockEntry
deriving DecidableEq

def peek (composer : Composer) : Token :=
  composer.tokens.headD .streamEnd

def skip (composer : Composer) : Composer :=
  { composer with tokens := composer.tokens.tail }

/-! ### Directives -/

def defaultHandles : List (String × List UInt8) :=
  [("!", Tag.unspecific.octets), ("!!", Text.Utf8.encode Tag.coreStart)]

/-- Reads the directives before a document. Also tells whether there were any. -/
def directives : (fuel : Nat) → (version : Bool) → List (String × List UInt8) → Composer →
    Except Problem (Bool × List (String × List UInt8) × Composer)
  | 0, version, handles, composer => .ok (version || !handles.isEmpty, handles, composer)
  | fuel + 1, version, handles, composer =>
      match composer.peek with
      | .versionDirective major minor =>
          if version then problem "a version is given twice"
          else if major = 1 ∧ (minor = 1 ∨ minor = 2) then
            directives fuel true handles composer.skip
          else problem "a version is unknown"
      | .tagDirective handle expansion =>
          if (handles.lookup handle).isSome then problem "a handle is declared twice"
          else directives fuel version (handles ++ [(handle, expansion)]) composer.skip
      | _ => .ok (version || !handles.isEmpty, handles, composer)

/-! ### Properties -/

structure Properties where
  anchor : Option (Nat × Nat)
  tag : Option Tag

/-- Reads an anchor, if there is one. Its number is that of the different names before it, the
same name included, and so a name that is used again shares its number with the next new one. -/
def anchor? (composer : Composer) : Option (Nat × Nat) × Composer :=
  match composer.peek with
  | .anchor name =>
      let number := composer.names.length
      let names := (name, number) :: composer.names.filter (·.1 ≠ name)
      (some (number, composer.anchors),
        { composer.skip with names, anchors := composer.anchors + 1 })
  | _ => (none, composer)

def tag? (composer : Composer) : Except Problem (Option Tag × Composer) :=
  match composer.peek with
  | .tag handle suffix =>
      if handle = "" then .ok (some ⟨suffix⟩, composer.skip)
      else
        match composer.handles.lookup handle with
        | some expansion => .ok (some ⟨expansion ++ suffix⟩, composer.skip)
        | none => problem "the handle of a tag is not declared"
  | _ => .ok (none, composer)

def properties (composer : Composer) : Except Problem (Properties × Composer) := do
  let (anchor, composer) := composer.anchor?
  let (tag, composer) ← composer.tag?
  match anchor with
  | some anchor => .ok (⟨some anchor, tag⟩, composer)
  | none =>
      if tag.isSome then
        let (anchor, composer) := composer.anchor?
        .ok (⟨anchor, tag⟩, composer)
      else .ok (⟨none, none⟩, composer)

def complete (composer : Composer) (properties : Properties) (node : Node) :
    Node × Composer :=
  match properties.anchor with
  | some (number, place) =>
      (node, { composer with anchored := ⟨number, place, node⟩ :: composer.anchored })
  | none => (node, composer)

def scalar (properties : Properties) (plain : Bool) (content : String) : Node :=
  .scalar (properties.tag.filter (· ≠ Tag.unspecific)) plain content

def propertiesAlone (properties : Properties) (composer : Composer) :
    Except Problem (Node × Composer) :=
  if properties.anchor.isSome || properties.tag.isSome then
    .ok (composer.complete properties (.scalar properties.tag true ""))
  else problem "a node is wanted here"

/-! ### Nodes -/

mutual

def node : (fuel : Nat) → Place → Composer → Except Problem (Node × Composer)
  | 0, _, _ => problem "a node does not end"
  | fuel + 1, place, composer =>
      match composer.peek with
      | .alias name =>
          match composer.names.lookup name with
          | some anchor => .ok (.alias anchor, composer.skip)
          | none => problem "an alias is of no anchor"
      | _ => do
          let (properties, composer) ← composer.properties
          match composer.peek with
          | .scalar plain content =>
              .ok (composer.skip.complete properties (scalar properties plain content))
          | .flowSequenceStart => do
              let (items, composer) ← flowItems fuel true composer.skip
              .ok (composer.complete properties (.sequence properties.tag items))
          | .flowMappingStart => do
              let (entries, composer) ← flowEntries fuel true composer.skip
              .ok (composer.complete properties (.mapping properties.tag entries))
          | .blockEntry =>
              if place = .blockEntry then do
                let (items, composer) ← blockItems fuel false composer
                .ok (composer.complete properties (.sequence properties.tag items))
              else propertiesAlone properties composer
          | .blockSequenceStart =>
              if place = .flow then propertiesAlone properties composer
              else do
                let (items, composer) ← blockItems fuel true composer.skip
                .ok (composer.complete properties (.sequence properties.tag items))
          | .blockMappingStart =>
              if place = .flow then propertiesAlone properties composer
              else do
                let (entries, composer) ← blockEntries fuel composer.skip
                .ok (composer.complete properties (.mapping properties.tag entries))
          | _ => propertiesAlone properties composer

def nodeUnless : (fuel : Nat) → Place → List Token → Composer →
    Except Problem (Node × Composer)
  | 0, _, _, _ => problem "a node does not end"
  | fuel + 1, place, marks, composer =>
      if marks.contains composer.peek then .ok (.missing, composer)
      else node fuel place composer

/-- Reads the items of a block sequence, which ends with a mark of its own if it is indented. -/
def blockItems : (fuel : Nat) → (indented : Bool) → Composer →
    Except Problem (List Node × Composer)
  | 0, _, _ => problem "a sequence does not end"
  | fuel + 1, indented, composer =>
      match composer.peek with
      | .blockEntry => do
          let marks :=
            if indented then [.blockEntry, .blockEnd] else [.blockEntry, .key, .value, .blockEnd]
          let (item, composer) ← nodeUnless fuel .block marks composer.skip
          let (items, composer) ← blockItems fuel indented composer
          .ok (item :: items, composer)
      | .blockEnd => .ok ([], if indented then composer.skip else composer)
      | _ => if indented then problem "an item is wanted here" else .ok ([], composer)

def blockEntries : (fuel : Nat) → Composer → Except Problem (List (Node × Node) × Composer)
  | 0, _ => problem "a mapping does not end"
  | fuel + 1, composer =>
      match composer.peek with
      | .key => do
          let marks := [Token.key, .value, .blockEnd]
          let (key, composer) ← nodeUnless fuel .blockEntry marks composer.skip
          let (value, composer) ←
            if composer.peek = .value then nodeUnless fuel .blockEntry marks composer.skip
            else .ok (.missing, composer)
          let (entries, composer) ← blockEntries fuel composer
          .ok ((key, value) :: entries, composer)
      | .blockEnd => .ok ([], composer.skip)
      | _ => problem "a key is wanted here"

def flowItems : (fuel : Nat) → (first : Bool) → Composer →
    Except Problem (List Node × Composer)
  | 0, _, _ => problem "a sequence does not end"
  | fuel + 1, first, composer => do
      if composer.peek = .flowSequenceEnd then .ok ([], composer.skip)
      else if !first && composer.peek ≠ .flowEntry then problem "a comma is wanted here"
      else
        let composer := if first then composer else composer.skip
        match composer.peek with
        | .flowSequenceEnd => .ok ([], composer.skip)
        | .key => do
            let (entry, composer) ← flowPair fuel composer.skip
            let (items, composer) ← flowItems fuel false composer
            .ok (.mapping none [entry] :: items, composer)
        | _ => do
            let (item, composer) ← node fuel .flow composer
            let (items, composer) ← flowItems fuel false composer
            .ok (item :: items, composer)

/-- Reads a mapping of one entry that is an item of a flow sequence. If it has no key, the token
where the key is missing is passed over. -/
def flowPair : (fuel : Nat) → Composer → Except Problem ((Node × Node) × Composer)
  | 0, _ => problem "a mapping does not end"
  | fuel + 1, composer => do
      let (key, composer) ←
        if [Token.value, .flowEntry, .flowSequenceEnd].contains composer.peek then
          .ok (.missing, composer.skip)
        else node fuel .flow composer
      let (value, composer) ←
        if composer.peek = .value then
          nodeUnless fuel .flow [.flowEntry, .flowSequenceEnd] composer.skip
        else .ok (.missing, composer)
      .ok ((key, value), composer)

def flowEntries : (fuel : Nat) → (first : Bool) → Composer →
    Except Problem (List (Node × Node) × Composer)
  | 0, _, _ => problem "a mapping does not end"
  | fuel + 1, first, composer => do
      if composer.peek = .flowMappingEnd then .ok ([], composer.skip)
      else if !first && composer.peek ≠ .flowEntry then problem "a comma is wanted here"
      else
        let composer := if first then composer else composer.skip
        match composer.peek with
        | .flowMappingEnd => .ok ([], composer.skip)
        | .key => do
            let (key, composer) ←
              nodeUnless fuel .flow [.value, .flowEntry, .flowMappingEnd] composer.skip
            let (value, composer) ←
              if composer.peek = .value then
                nodeUnless fuel .flow [.flowEntry, .flowMappingEnd] composer.skip
              else .ok (.missing, composer)
            let (entries, composer) ← flowEntries fuel false composer
            .ok ((key, value) :: entries, composer)
        | _ => do
            let (key, composer) ← node fuel .flow composer
            let (entries, composer) ← flowEntries fuel false composer
            .ok ((key, .missing) :: entries, composer)

end

/-- A bound on the depth of the descent: every token begins at most one node and one entry. -/
def fuel (composer : Composer) : Nat :=
  3 * composer.tokens.length + 3

def root (composer : Composer) : Except Problem (Node × Composer) :=
  match composer.peek with
  | .versionDirective _ _ | .tagDirective _ _ | .documentStart | .documentEnd | .streamEnd =>
      .ok (.missing, composer)
  | _ => node composer.fuel .block composer

def document (composer : Composer) : Except Problem Document := do
  let (declared, handles, composer) ←
    directives (composer.tokens.length + 1) false [] composer
  let missing := defaultHandles.filter fun handle => (handles.lookup handle.1).isNone
  let composer := { composer with handles := handles ++ missing }
  let (root, composer) ←
    if composer.peek = .documentStart then root composer.skip
    else if declared then problem "directives stand before no document"
    else node composer.fuel .block composer
  let rest := composer.tokens.dropWhile (· = .documentEnd)
  if rest = [.streamEnd] then .ok ⟨root, composer.anchored⟩
  else problem "something follows the document"

end Composer

def Document.read (text : String) : Except Problem (Option Document) := do
  match (← scan text).toList with
  | [.streamEnd] => .ok none
  | tokens => do
      let document ← Composer.document
        { tokens, handles := [], names := [], anchors := 0, anchored := [] }
      .ok (some document)

end StagedRuns.Yaml
