import LoadProbe.Url.Address
import LoadProbe.Url.Domain

/-!
# Absolute URLs

Which texts are absolute URLs.  Only what can make a text fail is looked at: the scheme, the host
and the port; user names, paths, queries and fragments may hold anything.

* `Url.scheme` gives the scheme of a URL, or why the text is not one.
-/

namespace LoadProbe.Url

open LoadProbe.Text

/-- How a scheme treats what follows it. -/
inductive Kind where
  /-- A host must follow, and backslashes are slashes. -/
  | special
  /-- A host may follow. -/
  | file
  /-- A host follows only two slashes, and is not a domain name. -/
  | other
deriving DecidableEq

/-- The kind of a scheme. -/
def kindOf (scheme : String) : Kind :=
  if ["http", "https", "ws", "wss", "ftp"].contains scheme then .special
  else if scheme = "file" then .file
  else .other

/-- The characters of a text that count: nothing invisible at either end, no tabs or line ends
anywhere. -/
def significant (text : String) : List Char :=
  (dropEnd (· ≤ ' ') (text.toList.dropWhile (· ≤ ' '))).filter fun c =>
    c ≠ '\t' && c ≠ '\n' && c ≠ '\r'

/-- Whether a scheme may have the character after its first. -/
def isSchemeCharacter (c : Char) : Bool :=
  c.isAlphanum || c = '+' || c = '-' || c = '.'

/-- The scheme in lower case, and what follows its colon. -/
def splitScheme? (cs : List Char) : Option (String × List Char) :=
  let scheme := cs.takeWhile isSchemeCharacter
  match cs.drop scheme.length with
  | ':' :: rest =>
      if scheme.head?.any Char.isAlpha then some (String.ofList (scheme.map Char.toLower), rest)
      else none
  | _ => none

/-- Whether the character is a slash to the kind of scheme. -/
def isSlash (kind : Kind) (c : Char) : Bool := c = '/' || (kind ≠ .other && c = '\\')

/-- Whether the character ends a host with its user name and port. -/
def endsAuthority (kind : Kind) (c : Char) : Bool := isSlash kind c || c = '?' || c = '#'

/-- Replaces every `%` with two hexadecimal digits by the byte they spell. -/
def percentDecode : List UInt8 → List UInt8
  | 0x25 :: a :: b :: bytes =>
      match digitValue? 16 (Char.ofNat a.toNat), digitValue? 16 (Char.ofNat b.toNat) with
      | some high, some low => UInt8.ofNat (16 * high + low) :: percentDecode bytes
      | _, _ => 0x25 :: percentDecode (a :: b :: bytes)
  | byte :: bytes => byte :: percentDecode bytes
  | [] => []

/-- Checks the host of a special scheme. -/
def checkHost (host : List Char) : Except Fault Unit :=
  match host with
  | '[' :: rest =>
      if rest.getLast? = some ']' ∧ isIpv6 rest.dropLast then .ok () else .error .invalidIpv6
  | _ => do
      let bytes := percentDecode (String.ofList host).toUTF8.toList
      match String.fromUTF8? ⟨bytes.toArray⟩ with
      | none => .error .invalidDomain
      | some name =>
          let domain ← domain? name.toList
          if endsInNumber domain && !isIpv4 domain then .error .invalidIpv4 else .ok ()

/-- Checks the host of any other scheme, which is taken as it is. -/
def checkOpaqueHost (host : List Char) : Except Fault Unit :=
  match host with
  | '[' :: rest =>
      if rest.getLast? = some ']' ∧ isIpv6 rest.dropLast then .ok () else .error .invalidIpv6
  | _ =>
      if host.any fun c => c.toNat = 0 || c = ' '
          || ['#', '/', ':', '<', '>', '?', '@', '[', '\\', ']', '^', '|'].contains c then
        .error .invalidHostCharacter
      else .ok ()

/-- Splits a host off its port: at the first colon that is not between brackets. -/
def splitHost (inBrackets : Bool) : List Char → List Char × List Char
  | [] => ([], [])
  | c :: cs =>
      if c = ':' && !inBrackets then ([], c :: cs)
      else
        let (host, rest) := splitHost (c = '[' || (inBrackets && c ≠ ']')) cs
        (c :: host, rest)

/-- Checks what follows a host: nothing, or a colon and a port. -/
def checkPort : List Char → Except Fault Unit
  | ':' :: digits =>
      let digits := digits.takeWhile (· ≠ '\\')
      if digits.all Char.isDigit && natOfDigits digits < 65536 then .ok () else .error .invalidPort
  | _ => .ok ()

/-- Splits user name and password off: at the last `@`. -/
def splitUser (authority : List Char) : Option (List Char) × List Char :=
  let host := (authority.reverse.takeWhile (· ≠ '@')).reverse
  if host.length = authority.length then (none, host)
  else (some (authority.take (authority.length - host.length - 1)), host)

/-- Whether a URL may go without a host, given its user name, its port and what follows.  A special
scheme needs one.  Any other needs one for a port and for a user, and an `@` with nothing on either
side is no user only where the text ends. -/
def mayLackHost (kind : Kind) (user? : Option (List Char)) (port after : List Char) : Bool :=
  kind ≠ .special && port.isEmpty && match user? with
    | none => true
    | some [] => after.isEmpty
    | some user => user = [':']

/-- Checks what follows two slashes. -/
def checkAuthority (kind : Kind) (cs : List Char) : Except Fault Unit := do
  let authority := cs.takeWhile (!endsAuthority kind ·)
  let (user?, rest) := splitUser authority
  let (host, port) := splitHost false rest
  if host.isEmpty then
    if mayLackHost kind user? port (cs.drop authority.length) then .ok () else .error .emptyHost
  else do
    if kind = .special then checkHost host else checkOpaqueHost host
    checkPort port

/-- Whether the text names a drive: a letter and a colon or a bar. -/
def isDrive (cs : List Char) : Bool :=
  match cs with
  | [letter, mark] => letter.isAlpha && (mark = ':' || mark = '|')
  | _ => false

/-- Checks what follows the scheme of files: a host only after two slashes. -/
def checkFile : List Char → Except Fault Unit
  | a :: b :: cs =>
      let host := cs.takeWhile (!endsAuthority .file ·)
      if isSlash .file a && isSlash .file b && !host.isEmpty && !isDrive host then checkHost host
      else .ok ()
  | _ => .ok ()

/-- The scheme of an absolute URL. -/
def scheme (text : String) : Except Fault String :=
  match splitScheme? (significant text) with
  | none => .error .relativeWithoutBase
  | some (name, rest) => do
      match kindOf name with
      | .special => checkAuthority .special (rest.dropWhile (isSlash .special))
      | .file => checkFile rest
      | .other =>
          match rest with
          | '/' :: '/' :: authority => checkAuthority .other authority
          | _ => .ok ()
      return name

end LoadProbe.Url
