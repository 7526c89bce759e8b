import Notary.Url.Host

namespace Notary

/-!
URLs, as far as they name places to call. A text is read leniently: blanks around it, tabs and line
breaks in it, backward slashes and superfluous parts all have one normal form. Schemes of the web
are read in full; of any other scheme it is only checked that the text is a URL.
-/

structure WebLocation where
  username : String
  password : Option String
  host : Host
  /-- None where it is the scheme's own. -/
  portNumber : Option Nat
  path : List String
  query : Option String
  fragment : Option String
  deriving DecidableEq, Repr

structure Url where
  scheme : String
  /-- None where the scheme is not one of the web. -/
  location : Option WebLocation
  deriving DecidableEq, Repr

namespace Url

def isSchemeChar (c : Char) : Bool :=
  c.isAlphanum || c = '+' || c = '-' || c = '.'

/-- The scheme in lower case, and the text after its colon. -/
def splitScheme (text : List Char) : Option (List Char × List Char) :=
  match text.span isSchemeChar with
  | (first :: rest, ':' :: after) =>
      if first.isAlpha then some ((first :: rest).map Char.toLower, after) else none
  | _ => none

def defaultPortNumber? (scheme : String) : Option Nat :=
  match scheme with
  | "http" | "ws" => some 80
  | "https" | "wss" => some 443
  | "ftp" => some 21
  | _ => none

/-- The text as it is read: without control characters and spaces around it, and without tabs and
line breaks. -/
def cleaned (text : List Char) : List Char :=
  let isOuter (c : Char) : Bool := c.toNat ≤ 0x20
  let inner := ((text.dropWhile isOuter).reverse.dropWhile isOuter).reverse
  inner.filter fun c => !(c = '\t' || c = '\n' || c = '\r')

def isSlash (web : Bool) (c : Char) : Bool :=
  c = '/' || (web && c.toNat = 0x5c)

/-- The characters that end the part of a URL that names the host. -/
def endsAuthority (web : Bool) (c : Char) : Bool :=
  isSlash web c || c = '?' || c = '#'

/-- The text before and after the last at sign, if there is one. -/
def splitCredentials (authority : List Char) : Option (List Char × List Char) :=
  match authority.reverse.span (· != '@') with
  | (after, '@' :: before) => some (before.reverse, after.reverse)
  | _ => none

/-- The name and the password of credentials, escaped. An empty password is none. -/
def readCredentials (text : List Char) : String × Option String :=
  let escaped (part : List Char) : String := String.ofList (Percent.encode Percent.userinfoSet part)
  match text.span (· != ':') with
  | (name, ':' :: password) =>
      (escaped name, if password.isEmpty then none else some (escaped password))
  | (name, _) => (escaped name, none)

/-- The text before the first colon outside square brackets, and the rest. -/
def splitHost : (bracketed : Bool) → List Char → List Char × List Char
  | _, [] => ([], [])
  | bracketed, c :: rest =>
      if c = ':' && !bracketed then ([], c :: rest)
      else
        let inside := if c = '[' then true else if c = ']' then false else bracketed
        let parts := splitHost inside rest
        (c :: parts.1, parts.2)

/-- The number after a host; none where there are no digits. -/
def readPortNumber (text : List Char) : Except UrlProblem (Option Nat) :=
  match text with
  | ':' :: digits =>
      if digits.isEmpty then .ok none
      else
        match Host.number? 10 digits with
        | some number => if number < 0x1_0000 then .ok (some number) else .error .portNumber
        | none => .error .portNumber
  | _ => .ok none

def isSingleDot (segment : List Char) : Bool :=
  String.ofList (segment.map Char.toLower) ∈ [".", "%2e"]

def isDoubleDot (segment : List Char) : Bool :=
  String.ofList (segment.map Char.toLower) ∈ ["..", ".%2e", "%2e.", "%2e%2e"]

def segments (text : List Char) : List (List Char) :=
  Host.splitAt '/' (text.map fun c => if isSlash true c then '/' else c)

/-- Steps through the segments; `reversed` holds the ones kept so far, the last one first. -/
def walk : (reversed : List String) → List (List Char) → List String
  | reversed, [] => reversed.reverse
  | reversed, segment :: rest =>
      let kept :=
        if isDoubleDot segment then reversed.drop 1
        else if isSingleDot segment then reversed
        else String.ofList (Percent.encode Percent.pathSet segment) :: reversed
      let dots := isDoubleDot segment || isSingleDot segment
      walk (if dots && rest.isEmpty then "" :: kept else kept) rest

def readPath (text : List Char) : List String :=
  match text with
  | [] => [""]
  | c :: rest => walk [] (segments (if isSlash true c then rest else c :: rest))

/-- The path, the query and the fragment. -/
def readTail (text : List Char) : List String × Option String × Option String :=
  let (path, rest) := text.span fun c => !(c = '?' || c = '#')
  let (query, rest) :=
    match rest with
    | '?' :: after =>
        let (query, rest) := after.span (· != '#')
        (some (String.ofList (Percent.encode Percent.querySet query)), rest)
    | other => (none, other)
  let fragment :=
    match rest with
    | '#' :: after => some (String.ofList (Percent.encode Percent.fragmentSet after))
    | _ => none
  (readPath path, query, fragment)

/-- Splits the text after the slashes into credentials, host and number, and the tail. Credentials
without a host are refused. -/
def splitAuthority (web : Bool) (text : List Char) :
    Except UrlProblem (Option (List Char) × List Char × List Char × List Char) :=
  let (authority, tail) := text.span fun c => !endsAuthority web c
  let (credentials, server) :=
    match splitCredentials authority with
    | some (before, after) => (some before, after)
    | none => (none, authority)
  let (host, number) := splitHost false server
  if credentials = some [] ∧ server.isEmpty ∧ !tail.isEmpty then .error .emptyHost
  else .ok (credentials, host, number, tail)

/-- Reads the text after the scheme and the slashes of a scheme of the web. -/
def readWeb (scheme : String) (text : List Char) : Except UrlProblem Url := do
  let (credentials, host, number, tail) ← splitAuthority true text
  if host.isEmpty then .error .emptyHost
  else
    let host ← Host.parse host
    let number ← readPortNumber number
    let (username, password) := readCredentials (credentials.getD [])
    let (path, query, fragment) := readTail tail
    .ok ⟨scheme, some
      { username, password, host
        portNumber := if number = defaultPortNumber? scheme then none else number
        path, query, fragment }⟩

/-- Checks the text after the scheme of a scheme that is not one of the web. -/
def readOther (scheme : String) (text : List Char) : Except UrlProblem Url :=
  match text with
  | '/' :: '/' :: rest => do
      let (credentials, host, number, _) ← splitAuthority false rest
      Host.checkOpaque host
      let named := readCredentials (credentials.getD []) ≠ ("", none)
      if host.isEmpty ∧ (number ≠ [] ∨ named) then .error .emptyHost
      else
        let _ ← readPortNumber number
        .ok ⟨scheme, none⟩
  | _ => .ok ⟨scheme, none⟩

def isDriveLetter (text : List Char) : Bool :=
  match text with
  | [letter, mark] => letter.isAlpha && (mark = ':' || mark = '|')
  | _ => false

/-- Checks the text after the scheme of local files. -/
def readFile (scheme : String) (text : List Char) : Except UrlProblem Url :=
  match text with
  | first :: second :: rest =>
      if isSlash true first && isSlash true second then
        let host := rest.takeWhile fun c => !endsAuthority true c
        if host.isEmpty || isDriveLetter host then .ok ⟨scheme, none⟩
        else do
          let _ ← Host.parse host
          .ok ⟨scheme, none⟩
      else .ok ⟨scheme, none⟩
  | _ => .ok ⟨scheme, none⟩

def parse (text : String) : Except UrlProblem Url :=
  match splitScheme (cleaned text.toList) with
  | none => .error .noScheme
  | some (schemeChars, rest) =>
      let scheme := String.ofList schemeChars
      if scheme = "file" then readFile scheme rest
      else if (defaultPortNumber? scheme).isSome then
        readWeb scheme (rest.dropWhile (isSlash true))
      else readOther scheme rest

/-- The credentials, with the at sign after them. -/
def credentialsText (location : WebLocation) : String :=
  match location.password with
  | some password => location.username ++ ":" ++ password ++ "@"
  | none => if location.username.isEmpty then "" else location.username ++ "@"

/-- The normal form of a URL of the web, and the scheme of any other one. -/
def text (url : Url) : String :=
  match url.location with
  | none => url.scheme ++ ":"
  | some location =>
      url.scheme ++ "://" ++ credentialsText location ++ location.host.text
        ++ ((location.portNumber.map fun number => ":" ++ toString number).getD "")
        ++ "/" ++ "/".intercalate location.path
        ++ ((location.query.map ("?" ++ ·)).getD "")
        ++ ((location.fragment.map ("#" ++ ·)).getD "")

end Url

end Notary
