/-!
The tokens of YAML: the marks that structure a document, some of them implied by indentation, and
the scalars between them.
-/

namespace StagedRuns.Yaml

structure Problem where
  reason : String
deriving DecidableEq, Repr

def problem {α : Type} (reason : String) : Except Problem α :=
  .error ⟨reason⟩

inductive Token where
  | versionDirective (major minor : Nat)
  | tagDirective (handle : String) (expansion : List UInt8)
  | documentStart
  | documentEnd
  | streamEnd
  | blockSequenceStart
  | blockMappingStart
  | blockEnd
  | flowSequenceStart
  | flowSequenceEnd
  | flowMappingStart
  | flowMappingEnd
  | blockEntry
  | flowEntry
  | key
  | value
  | alias (name : String)
  | anchor (name : String)
  | tag (handle : String) (suffix : List UInt8)
  /-- A scalar; `plain` if it stands without quotes and in no block of its own. -/
  | scalar (plain : Bool) (content : String)
deriving DecidableEq, Repr, Inhabited

end StagedRuns.Yaml
