import SchemaReview.Text.Digit
import SchemaReview.Text.Quoted
import SchemaReview.Text.Split

/-!
# Addresses of dialects

A dialect is named by the address of its schema. Addresses are compared in their normal form. The
host of an address follows two slashes; in brackets it has to be a numeric address of the sixth
version or of a later one.
-/
namespace SchemaReview.JsonSchema

/-- An address without blanks and control characters in front, line breaks and tabs. -/
def cleanAddress (s : List Char) : List Char :=
  (s.dropWhile fun c => c.toNat ≤ 32).filter fun c => c != '\t' && c != '\r' && c != '\n'

/-- An address in its normal form: clean, with the scheme in lower case, and without an empty query
and fragment at its end. -/
def normalAddress (s : List Char) : List Char :=
  let s := cleanAddress s
  let s := (s.takeWhile (· != ':')).map Char.toLower ++ s.dropWhile (· != ':')
  let dropLast (mark : Char) (s : List Char) : List Char :=
    if s.getLast? = some mark then s.dropLast else s
  dropLast '?' (dropLast '#' s)

/-- Why an address cannot be taken apart. -/
inductive AddressFault where
  | misplacedBracket
  | badFutureHost
  | notNumeric (host : String)
  | fourthVersion
  | hiddenDelimiter (host : String)
deriving DecidableEq, Repr

def AddressFault.text : AddressFault → String
  | .misplacedBracket => "Invalid IPv6 URL"
  | .badFutureHost => "IPvFuture address is invalid"
  | .notNumeric h => Text.quoted h ++ " does not appear to be an IPv4 or IPv6 address"
  | .fourthVersion => "An IPv4 address cannot be in brackets"
  | .hiddenDelimiter h =>
    "netloc '" ++ h ++ "' contains invalid characters under NFKC normalization"

/-- The text before the first of some marks, and the text after it, if there is one. -/
def cutAt (mark : Char) (s : List Char) : List Char × Option (List Char) :=
  match s.dropWhile (· != mark) with
  | _ :: rest => (s.takeWhile (· != mark), some rest)
  | [] => (s, none)

def isSchemeChar (c : Char) : Bool := c.isAlphanum || c == '+' || c == '-' || c == '.'

/-- A clean address without its scheme. -/
def dropScheme (s : List Char) : List Char :=
  match cutAt ':' s with
  | (scheme, some rest) =>
    if (scheme.head?.any Char.isAlpha) && scheme.all isSchemeChar then rest else s
  | (_, none) => s

/-- The part of an address that names a host, with a user before it and a port after it. -/
def hostPart (s : List Char) : List Char :=
  match dropScheme (cleanAddress s) with
  | '/' :: '/' :: rest => rest.takeWhile fun c => c != '/' && c != '?' && c != '#'
  | _ => []

/-- Whether a text is a number from 0 to 255 without leading zeros. -/
def isOctet (s : List Char) : Bool :=
  !s.isEmpty && s.length ≤ 3 && s.all Char.isDigit && (s == ['0'] || s.head? != some '0') &&
    Text.digitsNat s ≤ 255

def isFourthVersion (s : List Char) : Bool :=
  let parts := Text.splitAt '.' s
  parts.length == 4 && parts.all isOctet

/-- Whether a text is a number of up to four hexadecimal digits. -/
def isHextet (s : List Char) : Bool :=
  !s.isEmpty && s.length ≤ 4 && s.all fun c => (Text.hexValue? c).isSome

/-- The number of parts of an address of the sixth version. -/
def hextetCount : Nat := 8

/-- Whether parts between colons make up an address. Two colons in a row, which may stand at an end,
stand for one part or more. -/
def areHextets (parts : List (List Char)) : Bool :=
  let inner := (parts.drop 1).dropLast
  match inner.findIdx? List.isEmpty with
  | none => parts.length == hextetCount && parts.all isHextet
  | some i =>
    let skipped := i + 1
    let high := parts.take skipped
    let low := parts.drop (skipped + 1)
    let high := if high == [[]] then [] else high
    let low := if low == [[]] then [] else low
    high.length + low.length < hextetCount && high.all isHextet && low.all isHextet

/-- Whether a text is an address of the sixth version. Its last two parts may be written as an
address of the fourth version, and a zone may follow a percent sign. -/
def isSixthVersion (s : List Char) : Bool :=
  let (address, zone) := cutAt '%' s
  let parts := Text.splitAt ':' address
  let last := parts.getLast?.getD []
  let zoneFits := match zone with
    | some z => !z.isEmpty && !z.contains '%'
    | none => true
  zoneFits && 3 ≤ parts.length &&
    (if last.contains '.' then isFourthVersion last && areHextets (parts.dropLast ++ [['0'], ['0']])
    else areHextets parts)

/-- Whether a host is the letter of later versions, their number, a point and some text. -/
def isLaterVersion (host : List Char) : Bool :=
  match host with
  | 'v' :: rest =>
    let (version, text) := cutAt '.' rest
    !version.isEmpty && version.all (fun c => (Text.hexValue? c).isSome) &&
      text.any fun t => !t.isEmpty
  | _ => false

/-- What is wrong with a host that has to be a numeric address. -/
def numericFault? (host : List Char) : Option AddressFault :=
  if host.head? = some 'v' then if isLaterVersion host then none else some .badFutureHost
  else if isFourthVersion host then some .fourthVersion
  else if isSixthVersion host then none
  else some (.notNumeric (String.ofList host))

/-- The text after the last of some marks. -/
def afterLast (mark : Char) (s : List Char) : List Char :=
  (s.reverse.takeWhile (· != mark)).reverse

/-- What is wrong with a part that holds brackets of both kinds. -/
def bracketFault? (part : List Char) : Option AddressFault :=
  let host := afterLast '@' part
  match cutAt '[' host with
  | (before, some bracketed) =>
    let (inside, port) := cutAt ']' bracketed
    if !before.isEmpty then some .misplacedBracket
    else if port.any fun p => !p.isEmpty && p.head? != some ':' then some .misplacedBracket
    else numericFault? inside
  | (_, none) => numericFault? (cutAt ':' host).1

/-- Characters that stand for others among which is a delimiter of addresses. -/
def hiddenDelimiters : List Nat :=
  [0x2047, 0x2048, 0x2049, 0x2100, 0x2101, 0x2105, 0x2106, 0x2A74, 0xFE13, 0xFE16, 0xFE55, 0xFE56,
   0xFE5F, 0xFE6B, 0xFF03, 0xFF0F, 0xFF1A, 0xFF1F, 0xFF20]

/-- What is wrong with an address, if anything. -/
def addressFault? (s : List Char) : Option AddressFault :=
  let part := hostPart s
  let opens := part.contains '['
  let closes := part.contains ']'
  if opens != closes then some .misplacedBracket
  else
    match if opens then bracketFault? part else none with
    | some fault => some fault
    | none =>
      if part.any fun c => hiddenDelimiters.contains c.toNat then
        some (.hiddenDelimiter (String.ofList part))
      else none

end SchemaReview.JsonSchema
