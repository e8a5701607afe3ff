import StagedRuns.Url.Parse

/-!
The repository that an address is of: the first two segments of the path that are not empty, the
second without the ending of a clone address.
-/

namespace StagedRuns.Watch

def withoutEnding (ending text : String) : String :=
  if text.endsWith ending then
    String.ofList (text.toList.take (text.length - ending.length))
  else text

def repositoryOf? (address : String) : Option String := do
  let url ← Url.parse? address
  let segments ← url.segments?
  match segments.filter (· ≠ "") with
  | owner :: name :: _ => some (owner ++ "/" ++ withoutEnding ".git" name)
  | _ => none

end StagedRuns.Watch
