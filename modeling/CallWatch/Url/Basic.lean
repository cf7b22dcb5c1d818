import CallWatch.Url.Host

/-!
# Checking URLs

`Url.scheme?` checks that a text is an absolute URL and is the scheme of that URL in lower case.

Blanks around the text, tabs and newlines in it do not count.  The special schemes always have a
host, however many slashes or backslashes stand in front of it; other URLs have one behind two
slashes.  Behind the host and the number that may follow it nothing can go wrong.
-/

namespace CallWatch.Url

/-- The characters of a text that count. -/
def significant (s : String) : List Char :=
  let isBlank (c : Char) : Bool := c ≤ ' '
  let cs := s.toList.dropWhile isBlank
  let cs := (cs.reverse.dropWhile isBlank).reverse
  cs.filter fun c => c != '\t' && c != '\n' && c != '\r'

/-- The scheme in front of a colon, in lower case, and the text behind it. -/
def splitScheme? (cs : List Char) : Option (String × List Char) :=
  let isPart (c : Char) : Bool := c.isAlphanum || c = '+' || c = '-' || c = '.'
  match cs.dropWhile isPart with
  | ':' :: rest =>
    if cs.head?.any Char.isAlpha then
      some (String.ofList ((cs.takeWhile isPart).map Char.toLower), rest)
    else none
  | _ => none

/-- What a scheme says about the rest of the URL. -/
inductive SchemeKind where
  | special
  | file
  | other
  deriving DecidableEq, Repr

/-- The kind of a scheme. -/
def kindOf (scheme : String) : SchemeKind :=
  if scheme = "file" then .file
  else if scheme ∈ ["http", "https", "ws", "wss", "ftp"] then .special
  else .other

/-- Whether a character ends the authority of a URL. -/
def endsAuthority (kind : SchemeKind) (c : Char) : Bool :=
  c = '/' || c = '?' || c = '#' || (c = '\\' && kind != .other)

/-- The user information in front of the last `@` of an authority, if there is one, and the text
behind it. -/
def splitUserInfo (authority : List Char) : Option (List Char) × List Char :=
  if '@' ∈ authority then
    let host := (authority.reverse.takeWhile (· ≠ '@')).reverse
    (some (authority.take (authority.length - host.length - 1)), host)
  else (none, authority)

/-- The host in front of the first colon that no bracket encloses, and the rest. -/
def splitHost (isInside : Bool) : List Char → List Char × List Char
  | [] => ([], [])
  | c :: rest =>
    if c = ':' ∧ !isInside then ([], c :: rest)
    else
      let isInside := if c = '[' then true else if c = ']' then false else isInside
      let (host, rest) := splitHost isInside rest
      (c :: host, rest)

/-- Checks the number behind a host and a colon, which a backslash ends in any URL. -/
def checkPort (cs : List Char) : Except Fault Unit :=
  let cs := cs.takeWhile (· ≠ '\\')
  match natOfDigits? 10 cs with
  | some n => if n < 65536 then .ok () else .error .invalidPort
  | none => .error .invalidPort

/-- Whether user information must have a host behind it; `isLast` says whether the URL ends
there.  A single colon says nothing, and no information at all needs no host at the end. -/
def needsHost (isLast : Bool) (userInfo : List Char) : Bool :=
  if userInfo.isEmpty then !isLast else userInfo != [':']

/-- Checks what stands behind the slashes of a URL that has a host. -/
def checkAuthority (kind : SchemeKind) (cs : List Char) : Except Fault Unit := do
  let authority := cs.takeWhile fun c => !endsAuthority kind c
  -- a colon in brackets belongs to the host
  let (userInfo?, hostAndPort) := splitUserInfo authority
  let (host, behind) := splitHost false hostAndPort
  if host.isEmpty then
    if kind = .special ∨ !behind.isEmpty
        ∨ userInfo?.any (needsHost (authority.length = cs.length)) then
      throw .emptyHost
  else if kind = .special then checkHost host
  else checkOpaqueHost host
  checkPort (behind.drop 1)

/-- Checks what stands behind the scheme of a file URL.  A drive letter is no host. -/
def checkFile (cs : List Char) : Except Fault Unit :=
  let isSlash (c : Char) : Bool := c = '/' || c = '\\'
  match cs with
  | a :: b :: rest =>
    if isSlash a && isSlash b then
      match rest.takeWhile fun c => !endsAuthority .file c with
      | [] => .ok ()
      | [c, d] => if c.isAlpha ∧ (d = ':' ∨ d = '|') then .ok () else checkHost [c, d]
      | host => checkHost host
    else .ok ()
  | _ => .ok ()

/-- The scheme of the URL that a text spells. -/
def scheme? (s : String) : Except Fault String :=
  match splitScheme? (significant s) with
  | none => .error .relative
  | some (scheme, rest) => do
    match kindOf scheme with
    | .special => checkAuthority .special (rest.dropWhile fun c => c = '/' || c = '\\')
    | .file => checkFile rest
    | .other =>
      match rest with
      | '/' :: '/' :: rest => checkAuthority .other rest
      | _ => pure ()
    return scheme

end CallWatch.Url
