import StagedRuns.Url.Basic

/-!
Reading URLs. White space around a URL and line ends and tabs within it do not count. The URLs of
special schemes have a host, and a backslash is as good as a slash in them. Of a path, segments of
one dot are left out, and a segment of two dots takes back the one before it, unless that one names
a drive.
-/

namespace StagedRuns.Url

def isGap (c : Char) : Bool :=
  c = '\t' || c = '\n' || c = '\r'

def withoutGaps (text : List Char) : List Char :=
  text.filter (!isGap ·)

def continuesScheme (c : Char) : Bool :=
  c.isAlphanum || c = '+' || c = '-' || c = '.'

def splitScheme? (text : List Char) : Option (String × List Char) :=
  let isPart (c : Char) : Bool := continuesScheme c || isGap c
  let name := withoutGaps (text.takeWhile isPart)
  match text.dropWhile isPart with
  | ':' :: rest =>
      if name.head?.any Char.isAlpha then
        some (String.ofList (name.map Char.toLower), rest)
      else none
  | _ => none

def isSingleDot (segment : List Char) : Bool :=
  [".", "%2e"].contains (String.ofList (segment.map Char.toLower))

def isDoubleDot (segment : List Char) : Bool :=
  ["..", ".%2e", "%2e.", "%2e%2e"].contains (String.ofList (segment.map Char.toLower))

def isDrive : List Char → Bool
  | [letter, mark] => letter.isAlpha && (mark = ':' || mark = '|')
  | _ => false

/-- Whether a segment names a drive, perhaps with more behind a backslash. -/
def beginsWithDrive (segment : List Char) : Bool :=
  isDrive (segment.takeWhile (· ≠ '\\'))

/-- The segments, last one first, of the place above. There is none above a drive, whatever the
scheme. -/
def shorten : List (List Char) → List (List Char)
  | last :: before => if beginsWithDrive last then last :: before else before
  | [] => []

/-- The drive that a segment names and what comes after it, if a gap stands between them. -/
def splitAtDrive? (segment : List Char) : Option (List Char × List Char) :=
  match segment.dropWhile isGap with
  | letter :: rest =>
      match rest.dropWhile isGap with
      | ':' :: gap :: more =>
          let more := withoutGaps more
          if letter.isAlpha && isGap gap && !more.isEmpty then some ([letter, ':'], more) else none
      | _ => none
  | [] => none

/-- The segments, last one first, that a segment of a path is kept as. The first one of a file may
be a drive, which is written with a colon, and from which a gap divides what comes after it. -/
def kept (file : Bool) (before : List (List Char)) (segment : List Char) : List (List Char) :=
  let encode := Escape.encode Escape.keptInPath
  match if file && before.isEmpty then splitAtDrive? segment else none with
  | some (drive, more) => [encode more, drive]
  | none =>
      let segment := withoutGaps segment
      if file && before.isEmpty && isDrive segment then [segment.take 1 ++ [':']]
      else [encode segment]

/-- Adds segments to those before, which are kept last one first. -/
def addSegments (file : Bool) : (before : List (List Char)) → List (List Char) → List (List Char)
  | before, [] => before
  | before, segment :: rest =>
      if isDoubleDot (withoutGaps segment) then
        let before := shorten before
        addSegments file (if rest.isEmpty then [] :: before else before) rest
      else if isSingleDot (withoutGaps segment) then
        addSegments file (if rest.isEmpty then [] :: before else before) rest
      else addSegments file (kept file before segment ++ before) rest

def isSlash (special : Bool) (c : Char) : Bool :=
  c = '/' || (special && c = '\\')

def splitPath (special : Bool) (text : List Char) : List (List Char) :=
  text.splitOnP (isSlash special)

def segmentsOf (scheme : String) (text : List Char) : List (List Char) :=
  (addSegments (scheme = "file") [] (splitPath (isSpecial scheme) text)).reverse

def withoutSlash (special : Bool) (text : List Char) : List Char :=
  match text.dropWhile isGap with
  | c :: rest => if isSlash special c then rest else text
  | [] => []

def pathOf (scheme : String) (text : List Char) : Path :=
  let special := isSpecial scheme
  if text.isEmpty && !special then .segments []
  else .segments ((segmentsOf scheme (withoutSlash special text)).map String.ofList)

/-- The path of a file, which does not begin with an empty segment unless that is all of it. -/
def pathOfFile (text : List Char) : Path :=
  match (segmentsOf "file" text).dropWhile List.isEmpty with
  | [] => .segments [""]
  | segments => .segments (segments.map String.ofList)

def userOf (text : List Char) : String × Option String :=
  let encode (part : List Char) : String :=
    String.ofList (Escape.encode Escape.keptInUser part)
  match text.splitOn ':' with
  | [name] => (encode name, none)
  | name :: password =>
      let password := [':'].intercalate password
      (encode name, if password.isEmpty then none else some (encode password))
  | [] => ("", none)

def splitAtLastAt (text : List Char) : Option (List Char × List Char) :=
  if text.contains '@' then
    let after := (text.reverse.takeWhile (· ≠ '@')).reverse
    some (text.take (text.length - after.length - 1), after)
  else none

/-- What stands before the first colon that is not in brackets, and from there on. -/
def splitPort : (bracketed : Bool) → List Char → List Char × List Char
  | _, [] => ([], [])
  | bracketed, c :: rest =>
      if c = ':' && !bracketed then ([], c :: rest)
      else
        let bracketed := if c = '[' then true else if c = ']' then false else bracketed
        let (host, port) := splitPort bracketed rest
        (c :: host, port)

def portNumber (digits : List Char) : Nat :=
  digits.foldl (fun value c => value * 10 + (c.toNat - '0'.toNat)) 0

/-- The port behind a colon, unless it belongs to the scheme anyway, and what a path begins with
behind the port, which can only be a backslash. -/
def portOf? (scheme : String) : List Char → Option (Option Nat × List Char)
  | [] => some (none, [])
  | _ :: text =>
      let digits := text.takeWhile Char.isDigit
      let rest := text.dropWhile Char.isDigit
      let port := portNumber digits
      if 65535 < port || !(rest.isEmpty || rest.head? = some '\\') then none
      else if digits.isEmpty || defaultPort? scheme = some port then some (none, rest)
      else some (some port, rest)

def hostOf? (scheme : String) (text : List Char) : Option Host :=
  if isSpecial scheme then Host.special? text else Host.own? text

structure Authority where
  user : String
  password : Option String
  host : Host
  port : Option Nat

/-- The authority that a text spells, and what a path begins with behind it. A user or a port needs
a host, and so does an at sign alone if something follows. -/
def authorityOf? (scheme : String) (text : List Char) (follows : Bool) :
    Option (Authority × List Char) := do
  let (credentials, location) := (splitAtLastAt text).getD ([], text)
  let (user, password) := userOf credentials
  let (hostText, portText) := splitPort false location
  let host ← hostOf? scheme hostText
  let (port, rest) ← portOf? scheme portText
  let strayAt := text = ['@'] && follows
  let needsHost := user ≠ "" || password.isSome || !portText.isEmpty || strayAt
  if host = .empty && needsHost then none else some (⟨user, password, host, port⟩, rest)

def splitBefore (ends : Char → Bool) (text : List Char) : List Char × List Char :=
  (text.takeWhile (!ends ·), text.dropWhile (!ends ·))

def splitTail (scheme : String) (text : List Char) :
    List Char × Option String × Option String :=
  let (before, tail) := splitBefore (fun c => c = '?' || c = '#') text
  let (query, tail) := splitBefore (· = '#') (withoutGaps tail)
  let encode (keeps : Char → Bool) (part : List Char) : String :=
    String.ofList (Escape.encode keeps part.tail)
  (before,
    if query.isEmpty then none else some (encode (Escape.keptInQuery (isSpecial scheme)) query),
    if tail.isEmpty then none else some (encode Escape.keptInFragment tail))

def endsAuthority (scheme : String) (c : Char) : Bool :=
  isSlash (isSpecial scheme) c || c = '?' || c = '#'

def withAuthority? (scheme : String) (text : List Char) : Option Url := do
  let (authority, rest) := splitBefore (endsAuthority scheme) text
  let (authority, pathStart) ← authorityOf? scheme authority !rest.isEmpty
  let (path, query, fragment) := splitTail scheme (pathStart ++ rest)
  some
    { scheme, user := authority.user, password := authority.password
      host := some authority.host, port := authority.port
      path := pathOf scheme path, query, fragment }

def withPath (scheme : String) (path : Path) (query fragment : Option String) : Url :=
  { scheme, user := "", password := none, host := none, port := none, path, query, fragment }

def plainFile (text : List Char) : Url :=
  let (path, query, fragment) := splitTail "file" text
  withPath "file" (pathOfFile path) query fragment

/-- Reads the URL of a file on a host from its path on. A drive is on no host. -/
def fileOn (host : Host) (text : List Char) : Url :=
  let url := plainFile (withoutSlash true text)
  match url.segments? with
  | some (first :: _) =>
      if isDrive first.toList then url else { url with host := some host }
  | _ => { url with host := some host }

/-- Reads the URL of a file from behind its scheme, gaps and all. A host may come behind two
slashes, but a drive is none. -/
def file? (text : List Char) : Option Url :=
  match text.dropWhile isGap with
  | first :: rest =>
      if !isSlash true first then some (plainFile text)
      else
        match rest.dropWhile isGap with
        | second :: rest =>
            if !isSlash true second then some (plainFile (second :: rest))
            else
              let (name, after) := splitBefore (endsAuthority "file") rest
              let name := withoutGaps name
              if isDrive name then some (plainFile rest)
              else if name.isEmpty then some (plainFile after)
              else do
                let host ← Host.special? name
                some (if host = .domain "localhost" then plainFile after else fileOn host after)
        | [] => some (plainFile [])
  | [] => some (plainFile [])

def ownScheme? (scheme : String) (text : List Char) : Option Url :=
  match text with
  | '/' :: '/' :: rest => withAuthority? scheme rest
  | _ =>
      let (path, query, fragment) := splitTail scheme text
      if path.head? = some '/' then some (withPath scheme (pathOf scheme path) query fragment)
      else
        let path := String.ofList (Escape.encode Escape.isPlain path)
        some (withPath scheme (.unstructured path) query fragment)

def isOuterBlank (c : Char) : Bool :=
  c.toNat ≤ 0x20

def trimmed (text : String) : List Char :=
  ((text.toList.dropWhile isOuterBlank).reverse.dropWhile isOuterBlank).reverse

def parse? (text : String) : Option Url := do
  let (scheme, rest) ← splitScheme? (trimmed text)
  if scheme = "file" then file? rest
  else
    let rest := withoutGaps rest
    if isSpecial scheme then withAuthority? scheme (rest.dropWhile (isSlash true))
    else ownScheme? scheme rest

end StagedRuns.Url
