import Galley.Text.Utf8
import Galley.Web.Host.Name

/-!
# Web addresses

An absolute address with the scheme `http` or `https`. Blanks at its ends and line breaks anywhere
are passed over, and slashes of either kind may be missing or too many; what counts is that the
host and the number behind it can be read.
-/

namespace Galley.Web

open Galley.Text

/-! ## 1. Numbers as hosts -/

/-- The number that digits of a base spell. -/
def number? (base : Nat) (cs : List Char) : Option Nat :=
  cs.foldl
    (fun n c => do
      let n ← n
      let d ← hexValue? c
      if d < base then some (base * n + d) else none)
    (some 0)

/-- A part of a numeric host: hexadecimal behind "0x", octal behind "0", else decimal. -/
def hostNumber? (cs : List Char) : Option Nat :=
  match cs with
  | [] => none
  | '0' :: x :: rest => if x = 'x' || x = 'X' then number? 16 rest else number? 8 (x :: rest)
  | cs => number? 10 cs

/-- The parts of a host between points, without an empty one at the end. -/
def hostParts (host : List Char) : List (List Char) :=
  let parts := host.splitOnP fun c => c = '.'
  match parts.reverse with
  | [] :: rest => if rest.isEmpty then parts else rest.reverse
  | _ => parts

/-- A host is numeric when its last part is a number. -/
def endsInNumber (host : List Char) : Bool :=
  match (hostParts host).getLast? with
  | some [] | none => false
  | some last => last.all Char.isDigit || (hostNumber? last).isSome

/-- A numeric host has at most four parts, each a byte but for the last, which fills the rest. -/
def isNumericHost (host : List Char) : Bool :=
  match (hostParts host).mapM hostNumber? with
  | none => false
  | some parts =>
    parts.length ≤ 4 && parts.dropLast.all (fun n => n ≤ 255) &&
      parts.getLast?.any fun n => n < Nat.pow 256 (5 - parts.length)

/-! ## 2. Hosts in brackets -/

/-- One to four hexadecimal digits. -/
def isGroup (cs : List Char) : Bool :=
  !cs.isEmpty && cs.length ≤ 4 && cs.all fun c => (hexValue? c).isSome

/-- A decimal byte without a needless zero. -/
def isByte (cs : List Char) : Bool :=
  !cs.isEmpty && cs.all Char.isDigit && (cs.length = 1 || cs.head? ≠ some '0') &&
    (number? 10 cs).any fun n => n ≤ 255

/-- Four bytes with points between them. -/
def isByteQuad (cs : List Char) : Bool :=
  let parts := cs.splitOnP fun c => c = '.'
  parts.length = 4 && parts.all isByte

/-- How many groups stand between colons; the last two may be written as four bytes where
    `endsHere` holds. -/
def groupCount? (endsHere : Bool) (cs : List Char) : Option Nat :=
  if cs.isEmpty then some 0
  else
    let parts := cs.splitOnP fun c => c = ':'
    if parts.all isGroup then some parts.length
    else if endsHere && parts.dropLast.all isGroup && parts.getLast?.any isByteQuad then
      some (parts.length + 1)
    else none

/-- Eight groups, of which a double colon may stand for one or more. -/
def isBracketedHost (cs : List Char) : Bool :=
  match cut? [':', ':'] cs with
  | none => groupCount? true cs = some 8
  | some (front, back) =>
    match groupCount? back.isEmpty front, groupCount? true back with
    | some m, some n => m + n ≤ 7 && (!back.isEmpty || front.all fun c => c != '.')
    | _, _ => false

/-! ## 3. Hosts -/

/-- A host that is written with letters, with its escapes resolved. -/
def isNamedHost (host : List Char) : Bool :=
  (Host.resolve? host).any fun name => !endsInNumber name || isNumericHost name

/-- A host can be read. -/
def isHost (host : List Char) : Bool :=
  match host with
  | [] => false
  | '[' :: rest => rest.getLast? = some ']' && isBracketedHost rest.dropLast
  | host => isNamedHost (decodeFrom none (percentBytes host))

/-! ## 4. Addresses -/

/-- A host up to a colon that no bracket encloses, and what follows. -/
def splitHost (inBrackets : Bool) : List Char → List Char × List Char
  | [] => ([], [])
  | c :: cs =>
    if c = ':' && !inBrackets then ([], c :: cs)
    else
      let p := splitHost (c = '[' || (inBrackets && c != ']')) cs
      (c :: p.1, p.2)

/-- What follows a host can be read: nothing, a colon alone, or a colon and a number of at most
    16 bits. -/
def isHostNumber : List Char → Bool
  | [] => true
  | _ :: digits => digits.all Char.isDigit && (number? 10 digits).any fun n => n < Nat.pow 2 16

/-- The text behind the last at sign. -/
def behindUser (cs : List Char) : List Char :=
  match cutLast? ['@'] cs with
  | some (_, host) => host
  | none => cs

/-- The address without the blanks and line breaks that do not count. -/
def cleanAddress (cs : List Char) : List Char :=
  let isEdge := fun c : Char => c.toNat ≤ 0x20
  let trimmed := ((cs.dropWhile isEdge).reverse.dropWhile isEdge).reverse
  trimmed.filter fun c => !(c = '\t' || c = '\n' || c = '\r')

/-- What follows the scheme of a web address. -/
def afterScheme? (cs : List Char) : Option (List Char) :=
  match cut? [':'] cs with
  | some (scheme, rest) =>
    let scheme := scheme.map Char.toLower
    if scheme = "http".toList || scheme = "https".toList then some rest else none
  | none => none

/-- An absolute web address. -/
def isAddress (s : String) : Bool :=
  match afterScheme? (cleanAddress s.toList) with
  | none => false
  | some rest =>
    let rest := rest.dropWhile fun c => c = '/' || c = '\\'
    let authority := rest.takeWhile fun c => !(c = '/' || c = '\\' || c = '?' || c = '#')
    let (host, number) := splitHost false (behindUser authority)
    isHost host && isHostNumber number

end Galley.Web
