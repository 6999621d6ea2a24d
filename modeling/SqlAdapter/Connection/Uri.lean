/-
Where a database is: the parts of a connection URI.

A URI is a scheme, a colon and, behind two slashes, an authority: user and
password in front of an at sign, a host, and a port behind a colon. The path
names the database. Behind a question mark parameters may name any of them
again. In user, database and parameters a percent sign and two hexadecimal
digits stand for a byte.
-/
import SqlAdapter.Error
import SqlAdapter.Text.Blank
import SqlAdapter.Text.Digits
import SqlAdapter.Value.Display

namespace SqlAdapter

/-- The parts of a connection URI that say which database is meant. -/
structure ConnectionUri where
  user : Option String
  host : String
  port : Nat
  database : Option String

namespace ConnectionUri

/-- The port of a database server that names none. -/
def defaultPort : Nat := 5432

/-- The host of a URI that names none. -/
def defaultHost : String := "localhost"

/-- The error of a URI that is none. -/
def malformed (reason : String) : Failure := .badUri ("error with configuration: " ++ reason)

/-- Can the characters be a scheme? -/
def isScheme : List Char → Bool
  | [] => false
  | c :: cs => isLetter c && cs.all fun c => isLetter c || isDigit c || c = '+' || c = '-' || c = '.'

/-- Bytes of a text in which percent signs and two digits stand for bytes. -/
def percentBytes : List Char → List UInt8
  | [] => []
  | '%' :: h :: l :: cs =>
    match hexValue? h, hexValue? l with
    | some h, some l => UInt8.ofNat (h * 16 + l) :: percentBytes cs
    | _, _ => '%'.toUInt8 :: percentBytes (h :: l :: cs)
  | c :: cs => (String.singleton c).toUTF8.toList ++ percentBytes cs
  termination_by cs => cs.length

/-- A part in which percent signs and two digits stand for bytes. -/
def decoded (cs : List Char) : Result String :=
  match String.fromUTF8? ⟨(percentBytes cs).toArray⟩ with
  | some text => .ok text
  | none => .error (malformed "invalid utf-8 sequence")

/-- A part that counts as missing when it is empty. -/
def optional (cs : List Char) : Result (Option String) :=
  if cs = [] then .ok none else (decoded cs).map some

/-! ## Authorities -/

/-- What stands before the last at sign, none without one, and what stands behind it. -/
def splitUser (authority : List Char) : Option (List Char) × List Char :=
  let behind := (authority.reverse.takeWhile (· ≠ '@')).reverse
  if behind.length = authority.length then (none, authority)
  else (some (authority.take (authority.length - behind.length - 1)), behind)

/-- The host in front of the port: up to the first colon outside brackets. -/
def hostOf (inBrackets : Bool) : List Char → List Char
  | [] => []
  | c :: cs =>
    if c = ':' ∧ !inBrackets then []
    else c :: hostOf (if c = '[' then true else if c = ']' then false else inBrackets) cs

/-- The characters that no host has. -/
def isForbidden (c : Char) : Bool :=
  c.toNat = 0 || [' ', ':', '<', '>', '@', '[', '\\', ']', '^', '|'].contains c

/-- A character of a host: control characters and those beyond ASCII are written as bytes. -/
def hostChar (c : Char) : List Char :=
  if 32 ≤ c.toNat ∧ c.toNat < 127 then [c]
  else (String.singleton c).toUTF8.toList.flatMap fun b => '%' :: (hexChars 2 b.toNat).map Char.toUpper

/-- A host; the default one where none is named. -/
def readHost (host : List Char) : Result String :=
  match host with
  | [] => .ok defaultHost
  | '[' :: _ =>
    if host.getLast? = some ']' then .ok (String.ofList host) else .error (malformed "invalid IPv6 address")
  | _ =>
    if host.any isForbidden then .error (malformed "invalid domain character")
    else .ok (String.ofList (host.flatMap hostChar))

/-- A port: nothing, or a number of at most 16 bits. -/
def readPort (digits : List Char) : Result Nat :=
  if digits = [] then .ok defaultPort
  else if !digits.all isDigit ∨ 65535 < decimalValue digits then .error (malformed "invalid port number")
  else .ok (decimalValue digits)

/-! ## Parameters -/

/-- The ways in which a connection can be encrypted. -/
def encryptionModes : List String := ["disable", "allow", "prefer", "require", "verify-ca", "verify-full"]

/-- A whole number below a bound, a plus sign in front allowed. -/
def below (bound : Nat) (text : String) : Result Nat :=
  match text.toList, integer? text.toList with
  | [], _ => .error (malformed "cannot parse integer from empty string")
  | '-' :: _, _ | _, none => .error (malformed "invalid digit found in string")
  | _, some n =>
    if n.natAbs < bound then .ok n.natAbs
    else .error (malformed "number too large to fit in target type")

/-- The URI with one parameter; parameters that do not say which database is meant change nothing. -/
def withParameter (u : ConnectionUri) (key value : String) : Result ConnectionUri :=
  match key with
  | "user" => .ok { u with user := some value }
  | "host" => .ok { u with host := value }
  | "dbname" => .ok { u with database := some value }
  | "port" => (below (2 ^ 16) value).map fun port => { u with port := port }
  | "statement-cache-capacity" => (below (2 ^ 64) value).map fun _ => u
  | "sslmode" | "ssl-mode" =>
    if encryptionModes.any (sameIgnoringCase value) then .ok u
    else .error (malformed ("error with configuration: unknown value " ++ Value.shownText value ++
      " for `ssl_mode`"))
  | _ => .ok u

/-- A key or value of a parameter, in which a plus sign is a space. Bytes that are no text count as
one replacement character. -/
def parameterText (cs : List Char) : String :=
  match decoded (cs.map fun c => if c = '+' then ' ' else c) with
  | .ok text => text
  | .error _ => "\ufffd"

/-- The URI with the parameters of a list. -/
def withParameters : ConnectionUri → List (List Char) → Result ConnectionUri
  | u, [] => .ok u
  | u, p :: ps =>
    if p = [] then withParameters u ps
    else do
      let key := parameterText (p.takeWhile (· ≠ '='))
      let value := parameterText ((p.dropWhile (· ≠ '=')).drop 1)
      withParameters (← u.withParameter key value) ps

/-! ## URIs -/

/-- The parts of what stands behind the scheme, parameters aside. -/
def readBody (body : List Char) : Result ConnectionUri := do
  match body with
  | '/' :: '/' :: body =>
    let (login, place) := splitUser (body.takeWhile (· ≠ '/'))
    let host := hostOf false place
    let port := place.drop host.length
    if host = [] ∧ (login.isSome ∨ port ≠ []) then .error (malformed "empty host")
    else
      let host ← readHost host
      let port ← readPort (port.drop 1)
      let database ← optional ((body.dropWhile (· ≠ '/')).dropWhile (· = '/'))
      return ⟨← optional ((login.getD []).takeWhile (· ≠ ':')), host, port, database⟩
  | path => return ⟨none, defaultHost, defaultPort, ← optional (path.dropWhile (· = '/'))⟩

/-- Characters that count for nothing: those at the ends up to the space, tabs and ends of lines. -/
def cleaned (cs : List Char) : List Char :=
  let cs := cs.dropWhile (·.toNat ≤ 32)
  (cs.reverse.dropWhile (·.toNat ≤ 32)).reverse.filter fun c => c ≠ '\t' && c ≠ '\n' && c ≠ '\r'

/-- Reads a connection URI. -/
def read (uri : String) : Result ConnectionUri :=
  if uri = "" then .error .emptyUri
  else
    let cs := (cleaned uri.toList).takeWhile (· ≠ '#')
    let scheme := cs.takeWhile (· ≠ ':')
    if isScheme scheme ∧ scheme.length < cs.length then do
      let rest := cs.drop (scheme.length + 1)
      let u ← readBody (rest.takeWhile (· ≠ '?'))
      u.withParameters (Text.splitAt '&' ((rest.dropWhile (· ≠ '?')).drop 1))
    else .error (malformed "relative URL without a base")

end ConnectionUri

end SqlAdapter
