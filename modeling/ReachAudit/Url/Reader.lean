import ReachAudit.Text.Trim
import ReachAudit.Url

namespace ReachAudit.Url

/-- Controls and spaces at the two ends do not count, nor do tabs and line ends anywhere. -/
def cleaned (cs : List Char) : List Char :=
  (Text.trimEnds (·.toNat ≤ 0x20) cs).filter fun c => c ≠ '\t' ∧ c ≠ '\n' ∧ c ≠ '\r'

def isSchemeChar (c : Char) : Bool := c.isAlphanum || c = '+' || c = '-' || c = '.'

def splitScheme? (cs : List Char) : Option (String × List Char) :=
  match cs.span isSchemeChar with
  | (first :: more, ':' :: rest) =>
    if first.isAlpha then some (String.ofList ((first :: more).map Char.toLower), rest) else none
  | _ => none

def isSlash (special : Bool) (c : Char) : Bool := c = '/' || (special && c = '\\')

def endsPath (c : Char) : Bool := c = '?' || c = '#'

def splitLastAt (cs : List Char) : Option (List Char × List Char) :=
  match cs.reverse.span (· ≠ '@') with
  | (_, []) => none
  | (after, _ :: before) => some (before.reverse, after.reverse)

def splitPort (cs : List Char) : List Char × Option (List Char) :=
  let rec hostPart (inBrackets : Bool) : List Char → List Char × Option (List Char)
    | [] => ([], none)
    | c :: rest =>
      if c = ':' ∧ inBrackets = false then ([], some rest)
      else
        let inBrackets := if c = '[' then true else if c = ']' then false else inBrackets
        let (host, port) := hostPart inBrackets rest
        (c :: host, port)
  hostPart false cs

def port? (scheme : String) (cs : List Char) : Option (Option Nat) :=
  if cs = [] then some none
  else
    (Text.numberBelow? 65536 cs).map fun n => if defaultPort? scheme = some n then none else some n

structure Authority where
  username : String := ""
  password : String := ""
  host : Host
  port : Option Nat := none
  /-- What follows a backslash behind the port, itself included. It belongs to the path. -/
  beyond : List Char := []

def encodeUserinfo (cs : List Char) : String := String.ofList (percentEncode inUserinfo cs)

/-- Reads an authority. Only a scheme that is not special can do without a host, and then there are
    no credentials and no port; after a lone `@` the text has to be at its end. -/
def authority? (scheme : String) (cs : List Char) (atEnd : Bool) : Option Authority := do
  let (userinfo, rest) := (splitLastAt cs).getD ([], cs)
  let (username, password) := userinfo.span (· ≠ ':')
  let (hostText, portAndMore) := splitPort rest
  let (portText, beyond) := (portAndMore.getD []).span (· ≠ '\\')
  let hasCredentials := username ≠ [] ∨ password.tail ≠ []
  let loneAt := (splitLastAt cs).isSome ∧ userinfo = []
  if hostText = [] ∧
      (isSpecial scheme ∨ portAndMore.isSome ∨ hasCredentials ∨ (loneAt ∧ atEnd = false)) then none
  else
    return {
      username := encodeUserinfo username
      password := encodeUserinfo password.tail
      host := ← Host.parse? (isSpecial scheme) hostText
      port := ← port? scheme portText
      beyond }

def segmentsOf (special : Bool) : List Char → List (List Char × Bool)
  | [] => [([], false)]
  | c :: rest =>
    if isSlash special c then ([], true) :: segmentsOf special rest
    else
      match segmentsOf special rest with
      | [] => [([c], false)]
      | (segment, ended) :: more => (c :: segment, ended) :: more

def lowered (cs : List Char) : String := String.ofList (cs.map Char.toLower)

def isSingleDot (segment : List Char) : Bool := [".", "%2e"].contains (lowered segment)

def isDoubleDot (segment : List Char) : Bool :=
  ["..", ".%2e", "%2e.", "%2e%2e"].contains (lowered segment)

/-- A drive stands at the root of a file path and is never left. -/
def isDrive (name : String) : Bool :=
  match name.toList with
  | [letter, ':'] => letter.isAlpha
  | _ => false

def isDriveLike (segment : List Char) : Bool :=
  match segment with
  | [letter, mark] => letter.isAlpha && (mark = ':' || mark = '|')
  | _ => false

def shorten (scheme : String) (names : List String) : List String :=
  match names with
  | [only] => if scheme = "file" ∧ isDrive only then names else []
  | _ => names.dropLast

/-- Adds one segment to a path: dots lead nowhere or back. -/
def addSegment (scheme : String) (names : List String) (segment : List Char × Bool) : List String :=
  let (name, slashFollows) := segment
  if isDoubleDot name then
    shorten scheme names ++ (if slashFollows then [] else [""])
  else if isSingleDot name then names ++ (if slashFollows then [] else [""])
  else if scheme = "file" ∧ names = [] ∧ isDriveLike name then
    [String.ofList (name.take 1 ++ [':'])]
  else names ++ [String.ofList (percentEncode inPath name)]

def withoutEmpty (names : List String) : List String :=
  match names.dropWhile (· = "") with
  | [] => [""]
  | names => names

/-- Follows a path from where `names` lead. That of a file does not start with an empty name. -/
def followPath (scheme : String) (names : List String) (cs : List Char) : List String :=
  let followed := (segmentsOf (isSpecial scheme) cs).foldl (addSegment scheme) names
  if scheme = "file" then withoutEmpty followed else followed

structure Tail where
  query : Option String
  fragment : Option String

def tailOf (scheme : String) (cs : List Char) : Tail :=
  let (beforeHash, hash) := cs.span (· ≠ '#')
  let encodeQuery (q : List Char) := String.ofList (percentEncode (inQuery (isSpecial scheme)) q)
  let fragment :=
    if hash = [] then none else some (String.ofList (percentEncode inFragment hash.tail))
  match beforeHash with
  | '?' :: q => { query := some (encodeQuery q), fragment }
  | _ => { query := none, fragment }

def withPath (u : Url) (cs : List Char) : Url :=
  let (path, rest) := cs.span (!endsPath ·)
  let tail := tailOf u.scheme rest
  let rooted := match path with
    | c :: more => if isSlash (isSpecial u.scheme) c then more else path
    | [] => []
  let names :=
    if path = [] ∧ isSpecial u.scheme = false then []
    else followPath u.scheme [] rooted
  { u with path := .segments names, query := tail.query, fragment := tail.fragment }

def afterSlashes (scheme : String) (cs : List Char) : Option Url := do
  let ends (c : Char) : Bool := isSlash (isSpecial scheme) c || endsPath c
  let (authorityText, rest) := cs.span (!ends ·)
  let a ← authority? scheme authorityText rest.isEmpty
  return withPath
    { scheme, username := a.username, password := a.password, host := some a.host, port := a.port
      path := .segments [] } (a.beyond ++ rest)

def relative (base : Url) (names : List String) (cs : List Char) : Option Url :=
  let special := isSpecial base.scheme
  match cs with
  | first :: second :: rest =>
    if isSlash special first && isSlash special second then
      afterSlashes base.scheme (if special then rest.dropWhile (isSlash special) else rest)
    else fromPath special
  | _ => fromPath special
where
  fromPath (special : Bool) : Option Url :=
    let (path, rest) := cs.span (!endsPath ·)
    let tail := tailOf base.scheme rest
    match path with
    | [] =>
      some { base with
        query := if rest.head? = some '?' then tail.query else base.query
        fragment := tail.fragment }
    | c :: more =>
      let followed :=
        if isSlash special c then followPath base.scheme [] more
        else followPath base.scheme (shorten base.scheme names) path
      some { base with
        path := .segments followed, query := tail.query, fragment := tail.fragment }

def rootless (scheme : String) (cs : List Char) : Url :=
  let (path, rest) := cs.span (!endsPath ·)
  let tail := tailOf scheme rest
  { scheme, path := .rootless (String.ofList (percentEncode isControl path))
    query := tail.query, fragment := tail.fragment }

/-- A file on a drive is on no other machine. -/
def onDrive (u : Url) : Url :=
  match u.path with
  | .segments (name :: _) => if isDrive name then { u with host := some (.domain "") } else u
  | _ => u

/-- A file names a machine only after two slashes, and `localhost` is none. -/
def file (base : Option Url) (cs : List Char) : Option Url :=
  let slash := isSlash true
  let root : Url := { scheme := "file", host := some (.domain ""), path := .segments [] }
  match cs with
  | first :: second :: rest =>
    if slash first && slash second then do
      let (hostText, after) := rest.span fun c => !(slash c || endsPath c)
      if isDriveLike hostText then some (withPath root rest)
      else if hostText = [] then some (withPath root after)
      else
        let host ← Host.parse? true hostText
        let host := if host = .domain "localhost" then .domain "" else host
        some (onDrive (withPath { root with host := some host } after))
    else fromBase
  | _ => fromBase
where
  fromBase : Option Url :=
    match base with
    | some { path := .segments names, host, query, .. } =>
      relative { scheme := "file", host, path := .segments names, query } names cs
    | _ => some (withPath { scheme := "file", host := some (.domain ""), path := .segments [] } cs)

/-- Reads a URL, or a reference relative to `base`. -/
def parse? (base : Option Url) (input : String) : Option Url :=
  let cs := cleaned input.toList
  match splitScheme? cs with
  | some (scheme, rest) =>
    if scheme = "file" then file (base.filter (·.scheme = "file")) rest
    else if isSpecial scheme then
      let slashes := rest.takeWhile (isSlash true)
      match base with
      | some b =>
        if b.scheme = scheme ∧ slashes.length < 2 then fromBase b rest
        else afterSlashes scheme (rest.drop slashes.length)
      | none => afterSlashes scheme (rest.drop slashes.length)
    else
      match rest with
      | '/' :: '/' :: after => afterSlashes scheme after
      | '/' :: _ => some (withPath { scheme, path := .segments [] } rest)
      | _ => some (rootless scheme rest)
  | none => base.bind fun b => if b.scheme = "file" then file (some b) cs else fromBase b cs
where
  /-- A rootless URL has nothing to be relative to, a fragment aside. -/
  fromBase (b : Url) (cs : List Char) : Option Url :=
    match b.path with
    | .segments names => relative b names cs
    | .rootless _ =>
      if cs.head? = some '#' then some { b with fragment := (tailOf b.scheme cs).fragment }
      else none

end ReachAudit.Url
