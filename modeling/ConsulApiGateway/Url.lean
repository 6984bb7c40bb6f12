/-
URLs: parsing as in Go's `net/url`.

Go strings are sequences of bytes, and unescaping may produce any of them, so
a component of a URL is a list of bytes.

* `unescape` — percent-decoding, with what each component lets through;
* `parse` — `url.Parse`, with all its ways to fail;
* `queryGet` — `URL.Query().Get(key)`.

Of a parsed URL only the components that are read here are kept: the user
information and the fragment are checked and dropped, and the hints for
printing the URL again are left out.
-/
import ConsulApiGateway.GoStd

namespace Url

/-- A Go string. -/
abbrev Bytes := List UInt8

/-- The ways in which `url.Parse` fails. -/
inductive Error
  | controlCharacter
  | missingScheme
  | firstSegmentColon
  | invalidUserinfo
  | missingBracket
  | invalidPort (colonPort : Bytes)
  | invalidEscape (escape : Bytes)
  | invalidHost (byte : UInt8)
  deriving DecidableEq

/-- The components of a URL that differ in what they escape. -/
inductive Encoding
  | path
  | host
  | zone
  | userPassword
  | queryComponent
  | fragment
  deriving DecidableEq

/-! ### Bytes -/

def isLetter (c : UInt8) : Bool :=
  ('a'.toUInt8 ≤ c ∧ c ≤ 'z'.toUInt8) ∨ ('A'.toUInt8 ≤ c ∧ c ≤ 'Z'.toUInt8)

def isDigit (c : UInt8) : Bool := '0'.toUInt8 ≤ c ∧ c ≤ '9'.toUInt8

/-- The value of a hexadecimal digit. -/
def unhex? (c : UInt8) : Option UInt8 :=
  if isDigit c then some (c - '0'.toUInt8)
  else if 'a'.toUInt8 ≤ c ∧ c ≤ 'f'.toUInt8 then some (c - 'a'.toUInt8 + 10)
  else if 'A'.toUInt8 ≤ c ∧ c ≤ 'F'.toUInt8 then some (c - 'A'.toUInt8 + 10)
  else none

/-- `c` is one of the characters of an ASCII string. -/
def oneOf (chars : String) (c : UInt8) : Bool := c ∈ GoStd.bytes chars

/-- The bytes a host name or a zone may not contain unescaped. -/
def shouldEscapeHost (c : UInt8) : Bool :=
  ¬ (isLetter c ∨ isDigit c ∨ oneOf "!$&'()*+,;=:[]<>\"" c ∨ oneOf "-_.~" c)

/-- `strings.Cut`: the parts before and after the first separator. -/
def cut (sep : Char) (s : Bytes) : Bytes × Bytes :=
  (s.takeWhile (· ≠ sep.toUInt8), (s.dropWhile (· ≠ sep.toUInt8)).tail)

/-- The parts before and after the last separator, if there is one. -/
def cutLast (sep : Char) (s : Bytes) : Option (Bytes × Bytes) :=
  if sep.toUInt8 ∈ s then
    some ((cut sep s.reverse).2.reverse, (cut sep s.reverse).1.reverse)
  else none

/-! ### Percent-decoding -/

/-- What an escaped byte must satisfy: in a host only bytes beyond ASCII and the
percent sign are escaped, in a zone only bytes that could stand there as they
are, the percent sign and the blank. -/
def escapeAllowed (mode : Encoding) (v : UInt8) : Bool :=
  match mode with
  | .host => 0x80 ≤ v ∨ v = '%'.toUInt8
  | .zone => v = '%'.toUInt8 ∨ v = ' '.toUInt8 ∨ ¬ shouldEscapeHost v
  | _ => true

/-- `unescape`; the error is the one of the first byte that is refused. -/
def unescape (mode : Encoding) : Bytes → Except Error Bytes
  | [] => .ok []
  | c :: rest =>
    if c = '%'.toUInt8 then
      match rest with
      | h :: l :: rest' =>
        match unhex? h, unhex? l with
        | some vh, some vl =>
          if escapeAllowed mode (vh * 16 + vl) then
            (unescape mode rest').map ((vh * 16 + vl) :: ·)
          else .error (.invalidEscape [c, h, l])
        | _, _ => .error (.invalidEscape [c, h, l])
      | _ => .error (.invalidEscape (c :: rest))
    else if c = '+'.toUInt8 ∧ mode = .queryComponent then
      (unescape mode rest).map (' '.toUInt8 :: ·)
    else if (mode = .host ∨ mode = .zone) ∧ c < 0x80 ∧ shouldEscapeHost c then
      .error (.invalidHost c)
    else (unescape mode rest).map (c :: ·)

/-! ### Parsing -/

/-- The components of a parsed URL. -/
structure URL where
  scheme : Bytes
  host : Bytes
  path : Bytes
  rawQuery : Bytes
  deriving DecidableEq

/-- `getScheme`: the scheme, if the URL starts with one, and the rest. -/
def getScheme (raw : Bytes) : Except Error (Bytes × Bytes) :=
  let schemeByte := fun c => isLetter c ∨ isDigit c ∨ oneOf "+-." c
  let (scheme, rest) := (raw.takeWhile schemeByte, raw.dropWhile schemeByte)
  if rest.head? = some ':'.toUInt8 then
    match scheme with
    | [] => .error .missingScheme
    | c :: _ => if isLetter c then .ok (scheme, rest.tail) else .ok ([], raw)
  else .ok ([], raw)

/-- `strings.ToLower`, of a scheme. -/
def toLower (s : Bytes) : Bytes :=
  s.map fun c => if 'A'.toUInt8 ≤ c ∧ c ≤ 'Z'.toUInt8 then c + 32 else c

/-- `validOptionalPort`. -/
def validOptionalPort : Bytes → Bool
  | [] => true
  | c :: digits => c = ':'.toUInt8 ∧ digits.all isDigit

/-- The position of `%25` in a host. -/
def zoneIndex? (host : Bytes) : Option ℕ :=
  (List.range host.length).find? fun i => (host.drop i).take 3 = GoStd.bytes "%25"

/-- `parseHost`. -/
def parseHost (host : Bytes) : Except Error Bytes :=
  if host.head? = some '['.toUInt8 then
    -- an address in brackets, with an optional zone and port
    match cutLast ']' host with
    | none => .error .missingBracket
    | some (address, colonPort) =>
      if ¬ validOptionalPort colonPort then .error (.invalidPort colonPort)
      else match zoneIndex? address with
        | none => unescape .host host
        | some zone => do
          let host1 ← unescape .host (address.take zone)
          let host2 ← unescape .zone (address.drop zone)
          let host3 ← unescape .host (']'.toUInt8 :: colonPort)
          return host1 ++ host2 ++ host3
  else match cutLast ':' host with
    | none => unescape .host host
    | some (_, port) =>
      if ¬ validOptionalPort (':'.toUInt8 :: port) then .error (.invalidPort (':'.toUInt8 :: port))
      else unescape .host host

/-- `validUserinfo`. -/
def validUserinfo (s : Bytes) : Bool :=
  s.all fun c => isLetter c ∨ isDigit c ∨ oneOf "-._:~!$&'()*+,;=%@" c

/-- `parseAuthority`; the user information is checked only. -/
def parseAuthority (authority : Bytes) : Except Error Bytes :=
  match cutLast '@' authority with
  | none => parseHost authority
  | some (userinfo, host) => do
    let host ← parseHost host
    if ¬ validUserinfo userinfo then throw .invalidUserinfo
    let _ ← unescape .userPassword (cut ':' userinfo).1
    let _ ← unescape .userPassword (cut ':' userinfo).2
    return host

/-- `parse`, of a URL without its fragment. -/
def parseNoFragment (raw : Bytes) : Except Error URL := do
  if raw.any fun c => c < 0x20 ∨ c = 0x7F then throw .controlCharacter
  if raw = GoStd.bytes "*" then return ⟨[], [], raw, []⟩
  let (scheme, rest) ← getScheme raw
  let scheme := toLower scheme
  let (rest, rawQuery) := cut '?' rest
  if rest.head? ≠ some '/'.toUInt8 then
    -- a rootless path is opaque
    if scheme ≠ [] then return ⟨scheme, [], [], rawQuery⟩
    if ':'.toUInt8 ∈ (cut '/' rest).1 then throw .firstSegmentColon
  if GoStd.bytes "//" <+: rest ∧ (scheme ≠ [] ∨ ¬ GoStd.bytes "///" <+: rest) then
    let authority := (rest.drop 2).takeWhile (· ≠ '/'.toUInt8)
    let host ← parseAuthority authority
    let path ← unescape .path ((rest.drop 2).dropWhile (· ≠ '/'.toUInt8))
    return ⟨scheme, host, path, rawQuery⟩
  let path ← unescape .path rest
  return ⟨scheme, [], path, rawQuery⟩

/-- `url.Parse`. -/
def parse (rawURL : Bytes) : Except Error URL := do
  let (u, fragment) := cut '#' rawURL
  let url ← parseNoFragment u
  let _ ← unescape .fragment fragment
  return url

/-! ### Queries -/

/-- One `key=value` of a query; those that are malformed are skipped. -/
def queryPair? (pair : Bytes) : Option (Bytes × Bytes) :=
  if ';'.toUInt8 ∈ pair ∨ pair = [] then none
  else
    match unescape .queryComponent (cut '=' pair).1, unescape .queryComponent (cut '=' pair).2 with
    | .ok key, .ok value => some (key, value)
    | _, _ => none

/-- `URL.Query().Get(key)`: the first value of the key, or the empty string. -/
def queryGet (rawQuery : Bytes) (key : String) : Bytes :=
  let pairs := (rawQuery.splitOn '&'.toUInt8).filterMap queryPair?
  ((pairs.find? (·.1 = GoStd.bytes key)).map (·.2)).getD []

end Url
