import StagedRuns.Yaml.Node.Compose

/-!
Following aliases. They are followed a limited number of times, so that a small document does not
stand for a huge value.
-/

namespace StagedRuns.Yaml

def aliasesPerEvent : Nat := 100

/-- A computation on a document that follows aliases; the number is of those that it may still
follow. -/
abbrev Following : Type → Type :=
  ReaderT Document (StateT Nat (Except Problem))

/-- The result of a computation on a document. Nodes with anchors stand also in the root. -/
def Document.run {α : Type} (document : Document) (computation : Following α) :
    Except Problem α :=
  (ReaderT.run computation document).run' (aliasesPerEvent * document.root.events)

def Node.follow : Node → Following Node
  | .alias anchor => do
      match ← get, (← read).anchored? anchor with
      | left + 1, some node => do
          set left
          return node
      | 0, _ => throw ⟨"too many aliases are followed"⟩
      | _, none => throw ⟨"an alias is of no anchor"⟩
  | node => return node

end StagedRuns.Yaml
