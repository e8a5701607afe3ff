import StagedRuns.Json.Writer
import StagedRuns.Yaml.Printer.Scalar

/-!
Writing JSON values as YAML, a line for each scalar. Members stand below their key two spaces
further in, items on the level of their key behind a hyphen.
-/

namespace StagedRuns.Yaml.Printer

def indented : List Char → List Char
  | [] => []
  | line => ' ' :: ' ' :: line

def entry (name : String) (first : List Char) (below : List (List Char)) : List (List Char) :=
  (key name ++ ' ' :: first) :: below.map indented

def item : List (List Char) → List (List Char)
  | [] => []
  | first :: below => ('-' :: ' ' :: first) :: below.map indented

def leaf : Json → List Char × List (List Char)
  | .string content => scalar (styleOf content) content
  | .array _ => (['[', ']'], [])
  | .object _ => (['\x7b', '\x7d'], [])
  | value => ((Json.render value).toList, [])

mutual

def lines : Json → List (List Char)
  | .array (first :: rest) => item (lines first) ++ itemLines rest
  | .object ((name, value) :: rest) => memberLines name value ++ objectLines rest
  | value => (leaf value).1 :: (leaf value).2

def memberLines (name : String) : Json → List (List Char)
  | .array (first :: rest) => key name :: (item (lines first) ++ itemLines rest)
  | .object ((inner, value) :: rest) =>
      key name :: (memberLines inner value ++ objectLines rest).map indented
  | value => entry name (leaf value).1 (leaf value).2

def itemLines : List Json → List (List Char)
  | [] => []
  | first :: rest => item (lines first) ++ itemLines rest

def objectLines : List (String × Json) → List (List Char)
  | [] => []
  | (name, value) :: rest => memberLines name value ++ objectLines rest

end

def print (value : Json) : String :=
  String.ofList ((lines value).flatMap (· ++ ['\n']))

end StagedRuns.Yaml.Printer
