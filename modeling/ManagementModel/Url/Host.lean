import ManagementModel.Text.Percent
import ManagementModel.Url.Domain

/-!
# ManagementModel — hosts

A host in brackets is an address of eight groups; two colons stand for groups of zeros, and the
last two groups may be written as four decimal numbers. Any other host of a scheme that has domains
is one: percent signs are resolved first, and a domain whose last label is a number is an address
of four bytes. Hosts of other schemes are taken as they are.
-/

namespace ManagementModel.Url

/-- Why a text is no URL. -/
inductive UrlError where
  /-- There is no scheme. -/
  | relativeWithoutBase
  | emptyHost
  | invalidPort
  | invalidIpv4
  | invalidIpv6
  /-- A domain name breaks the rules for international names. -/
  | invalidDomain
  /-- The host of a scheme without domains holds a character that no host may hold. -/
  | invalidHostCharacter
deriving DecidableEq, Repr

def UrlError.message : UrlError → String
  | .relativeWithoutBase => "relative URL without a base"
  | .emptyHost => "empty host"
  | .invalidPort => "invalid port number"
  | .invalidIpv4 => "invalid IPv4 address"
  | .invalidIpv6 => "invalid IPv6 address"
  | .invalidDomain => "invalid international domain name"
  | .invalidHostCharacter => "invalid domain character"

inductive Host where
  | domain (name : String)
  | ipv4 (address : Nat)
  | ipv6 (groups : List Nat)
  /-- The host of a scheme that has no domains. -/
  | other (name : String)
deriving DecidableEq, Repr

namespace Host

/-! ## Addresses of four bytes -/

/-- The value of a digit of a base, which is at most sixteen. -/
def digit? (base : Nat) (c : Char) : Option Nat :=
  (Text.hexDigit? c).filter (· < base)

/-- The number that digits of a base spell. -/
def digits? (base : Nat) (s : List Char) : Option Nat := do
  return (← s.mapM (digit? base)).foldl (fun n d => n * base + d) 0

/-- A number of an address: hexadecimal behind `0x`, octal behind `0`, or decimal. -/
def ipv4Number? : List Char → Option Nat
  | [] => none
  | '0' :: 'x' :: rest => digits? 16 rest
  | '0' :: 'X' :: rest => digits? 16 rest
  | '0' :: c :: rest => digits? 8 (c :: rest)
  | s => digits? 10 s

/-- The labels of a domain; an empty label at the end does not count. -/
def labels (s : List Char) : List (List Char) :=
  let parts := s.splitOn '.'
  if parts.getLast? == some [] then parts.dropLast else parts

/-- The last label of a domain is a number, or looks like one. -/
def endsInNumber (s : List Char) : Bool :=
  match (labels s).getLast? with
  | some last => (!last.isEmpty && last.all Char.isDigit) || (ipv4Number? last).isSome
  | none => false

/-- The address of one to four numbers. Each but the last is a byte; the last fills the rest. -/
def ipv4? (s : List Char) : Option Nat := do
  let numbers ← (labels s).mapM ipv4Number?
  let last ← numbers.getLast?
  let bytes := numbers.dropLast
  if bytes.length ≤ 3 && bytes.all (· ≤ 255) && last < Nat.pow 256 (4 - bytes.length) then
    return bytes.foldl (fun n b => n * 256 + b) 0 * Nat.pow 256 (4 - bytes.length) + last
  else none

/-! ## Addresses of eight groups -/

/-- A group of one to four hexadecimal digits. -/
def group? (s : List Char) : Option Nat :=
  if s.isEmpty || 4 < s.length then none else digits? 16 s

/-- A decimal number of an address, without leading zeros. -/
def byte? (s : List Char) : Option Nat :=
  match s with
  | [] => none
  | ['0'] => some 0
  | '0' :: _ => none
  | s => (digits? 10 s).filter (· ≤ 255)

/-- The two groups of four decimal numbers. -/
def quad? (s : List Char) : Option (List Nat) := do
  match ← (s.splitOn '.').mapM byte? with
  | [a, b, c, d] => return [a * 256 + b, c * 256 + d]
  | _ => none

/-- Groups between colons; the last of them may be four decimal numbers if `quads` allows it. -/
def groups? (quads : Bool) : List (List Char) → Option (List Nat)
  | [] => some []
  | [last] => if quads && last.contains '.' then quad? last else (group? last).map ([·])
  | g :: rest => do return (← group? g) :: (← groups? quads rest)

/-- What stands before and behind the first two colons in a row. -/
def splitAtColons : List Char → Option (List Char × List Char)
  | ':' :: ':' :: rest => some ([], rest)
  | c :: rest => (splitAtColons rest).map fun p => (c :: p.1, p.2)
  | [] => none

/-- The parts of a text between colons, none of an empty text. -/
def colonParts (s : List Char) : List (List Char) :=
  if s.isEmpty then [] else s.splitOn ':'

def ipv6? (s : List Char) : Option (List Nat) := do
  match splitAtColons s with
  | some (before, after) =>
    let front ← groups? false (colonParts before)
    let back ← groups? true (colonParts after)
    if front.length + back.length ≤ 7 then
      return front ++ List.replicate (8 - front.length - back.length) 0 ++ back
    else none
  | none =>
    let groups ← groups? true (s.splitOn ':')
    if groups.length = 8 then return groups else none

/-! ## Any host -/

/-- The host in brackets. -/
def ofBrackets (s : List Char) : Except UrlError Host :=
  if s.getLast? == some ']' then
    match ipv6? (s.drop 1).dropLast with
    | some groups => .ok (.ipv6 groups)
    | none => .error .invalidIpv6
  else .error .invalidIpv6

/-- The host of a scheme that has domains. -/
def ofDomain (s : List Char) : Except UrlError Host :=
  if s.head? == some '[' then ofBrackets s
  else
    match Domain.ofBytes? (Text.Percent.decode (Text.Utf8.bytes (String.ofList s))) with
    | none => .error .invalidDomain
    | some [] => .error .emptyHost
    | some name =>
      if endsInNumber name then
        match ipv4? name with
        | some address => .ok (.ipv4 address)
        | none => .error .invalidIpv4
      else .ok (.domain (String.ofList name))

/-- Characters that no host holds. -/
def isForbidden (c : Char) : Bool :=
  ['\x00', '\t', '\n', '\r', ' ', '#', '/', ':', '<', '>', '?', '@', '[', '\\', ']', '^',
    '|'].contains c

/-- The host of a scheme that has no domains. -/
def ofOther (s : List Char) : Except UrlError Host :=
  if s.head? == some '[' then ofBrackets s
  else if s.any isForbidden then .error .invalidHostCharacter
  else .ok (.other (String.ofList (Text.Percent.encode Text.Percent.isControl s)))

end Host

end ManagementModel.Url
