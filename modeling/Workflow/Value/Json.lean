import Workflow.Value
import Workflow.Value.Outline

/-!
# Values as JSON text

`Value.json` writes a value without spaces, each text with as few escapes as the format allows.
`Value.document?` reads as much of a text as an outline asks for: members stay in the order of the
text, repeated ones included. `Value.ofJson?` is the value that a whole text stands for.

An integer is a number without fraction and exponent that fits 64 bits, signed or unsigned; every
other number is a double. Lists and objects nest at most 127 deep. These limits, and that both
halves of an escaped character are there, are asked of what is read and not of what is passed over.
-/

namespace Workflow

namespace Json

/-! ## Writing -/

/-- One character of a text between double quotes. -/
def escaped (c : Char) : List Char :=
  if c = '"' then ['\\', '"']
  else if c = '\\' then ['\\', '\\']
  else if c = '\n' then ['\\', 'n']
  else if c = '\r' then ['\\', 'r']
  else if c = '\t' then ['\\', 't']
  else if c.toNat = 0x08 then ['\\', 'b']
  else if c.toNat = 0x0c then ['\\', 'f']
  else if c.toNat < 0x20 then
    ['\\', 'u', '0', '0', Nat.digitChar (c.toNat / 16), Nat.digitChar (c.toNat % 16)]
  else [c]

/-- The characters of a text between double quotes, the closing quote included. -/
def textBody : List Char → List Char
  | [] => ['"']
  | c :: rest => escaped c ++ textBody rest

/-- A text between double quotes. -/
def textChars (s : String) : List Char := '"' :: textBody s.toList

mutual

/-- The JSON characters of a value. -/
def chars : Value → List Char
  | .null => ['n', 'u', 'l', 'l']
  | .bool true => ['t', 'r', 'u', 'e']
  | .bool false => ['f', 'a', 'l', 's', 'e']
  | .integer n => (toString n).toList
  | .double x => x.text.toList
  | .text s => textChars s
  | .list items => '[' :: (itemChars items ++ [']'])
  | .members named => '\x7b' :: (memberChars named ++ ['\x7d'])

/-- Items with commas between them. -/
def itemChars : List Value → List Char
  | [] => []
  | [v] => chars v
  | v :: rest => chars v ++ ',' :: itemChars rest

/-- Members with commas between them. -/
def memberChars : List (String × Value) → List Char
  | [] => []
  | [(k, v)] => textChars k ++ ':' :: chars v
  | (k, v) :: rest => textChars k ++ ':' :: (chars v ++ ',' :: memberChars rest)

end

/-! ## Reading texts -/

/-- Space, line feed, carriage return and tab may stand between tokens. -/
def isBlank (c : Char) : Bool := c = ' ' || c = '\n' || c = '\r' || c = '\t'

/-- The characters from the next token on. -/
def skipBlanks (cs : List Char) : List Char := cs.dropWhile isBlank

/-- The value of a hexadecimal digit of either case. -/
def hexDigit? (c : Char) : Option Nat :=
  if '0' ≤ c ∧ c ≤ '9' then some (c.toNat - '0'.toNat)
  else if 'a' ≤ c ∧ c ≤ 'f' then some (c.toNat - 'a'.toNat + 10)
  else if 'A' ≤ c ∧ c ≤ 'F' then some (c.toNat - 'A'.toNat + 10)
  else none

/-- The number written by four hexadecimal digits. -/
def hexQuad? (a b c d : Char) : Option Nat := do
  let a ← hexDigit? a
  let b ← hexDigit? b
  let c ← hexDigit? c
  let d ← hexDigit? d
  some (((a * 16 + b) * 16 + c) * 16 + d)

/-- The character after a backslash, unless it begins a code point. -/
def unescaped? (c : Char) : Option Char :=
  if c = '"' then some '"'
  else if c = '\\' then some '\\'
  else if c = '/' then some '/'
  else if c = 'b' then some '\x08'
  else if c = 'f' then some '\x0c'
  else if c = 'n' then some '\n'
  else if c = 'r' then some '\r'
  else if c = 't' then some '\t'
  else none

/-- The character of a code unit that stands alone. -/
def ofUnit? (n : Nat) : Option Char :=
  if 0xd800 ≤ n ∧ n ≤ 0xdfff then none else some (Char.ofNat n)

/-- The character of two code units, one from each half of the surrogates. -/
def ofPair? (n m : Nat) : Option Char :=
  if 0xd800 ≤ n ∧ n ≤ 0xdbff ∧ 0xdc00 ≤ m ∧ m ≤ 0xdfff then
    some (Char.ofNat (0x10000 + (n - 0xd800) * 0x400 + (m - 0xdc00)))
  else none

/-- The characters up to the closing quote, and what follows it. -/
def textEnd : List Char → Option (List Char × List Char)
  | [] => none
  | '"' :: rest => some ([], rest)
  | '\\' :: 'u' :: a :: b :: c :: d :: '\\' :: 'u' :: e :: f :: g :: h :: rest =>
    match hexQuad? a b c d with
    | none => none
    | some n =>
      match ofUnit? n with
      | some ch => (textEnd ('\\' :: 'u' :: e :: f :: g :: h :: rest)).map fun r => (ch :: r.1, r.2)
      | none =>
        match (hexQuad? e f g h).bind (ofPair? n) with
        | some ch => (textEnd rest).map fun r => (ch :: r.1, r.2)
        | none => none
  | '\\' :: 'u' :: a :: b :: c :: d :: rest =>
    match (hexQuad? a b c d).bind ofUnit? with
    | some ch => (textEnd rest).map fun r => (ch :: r.1, r.2)
    | none => none
  | '\\' :: c :: rest =>
    match unescaped? c with
    | some ch => (textEnd rest).map fun r => (ch :: r.1, r.2)
    | none => none
  | c :: rest =>
    if c.toNat < 0x20 || c = '\\' then none
    else (textEnd rest).map fun r => (c :: r.1, r.2)

/-- What follows the closing quote of a text that is passed over. -/
def afterText? : List Char → Option (List Char)
  | [] => none
  | '"' :: rest => some rest
  | '\\' :: 'u' :: a :: b :: c :: d :: rest =>
    match hexQuad? a b c d with
    | some _ => afterText? rest
    | none => none
  | '\\' :: c :: rest =>
    match unescaped? c with
    | some _ => afterText? rest
    | none => none
  | c :: rest => if c.toNat < 0x20 || c = '\\' then none else afterText? rest

/-- The text up to the closing quote, and what follows it; one that is passed over is empty. -/
def readText? : Outline → List Char → Option (String × List Char)
  | .nothing, cs => (afterText? cs).map ("", ·)
  | _, cs => (textEnd cs).map fun r => (String.ofList r.1, r.2)

/-! ## Reading numbers -/

/-- The greatest integer of 64 bits. -/
def maxUnsigned : Nat := 18446744073709551615

/-- Take digits into a significand for as long as it fits 64 bits, and say which are left. -/
def gather (significand : Nat) : List Char → Nat × List Char
  | [] => (significand, [])
  | c :: rest =>
    let next := significand * 10 + (c.toNat - '0'.toNat)
    if next ≤ maxUnsigned then gather next rest else (significand, c :: rest)

/-- The number written by decimal digits. -/
def ofDigits (digits : List Char) : Nat :=
  digits.foldl (fun n c => n * 10 + (c.toNat - '0'.toNat)) 0

/-- A number as it is written. -/
structure Numeral where
  /-- Whether a minus sign comes first. -/
  negative : Bool
  /-- The digits before the point. -/
  whole : List Char
  /-- The digits after the point, if there is one. -/
  fraction : Option (List Char)
  /-- The power of ten, if there is one. -/
  exponent : Option Int

/-- The value of a numeral, unless it is beyond the doubles. Digits beyond 64 bits only count as
places. -/
def Numeral.value? (n : Numeral) : Option Value :=
  let (lead, unread) := gather 0 n.whole
  if n.fraction.isNone && n.exponent.isNone && unread.isEmpty
      && (if n.negative then 0 < lead && lead ≤ 9223372036854775808 else true) then
    some (.integer (if n.negative then -(lead : Int) else lead))
  else
    let tail := n.fraction.getD []
    let (significand, dropped) := gather lead tail
    let places : Int := (unread.length : Int) - (tail.length - dropped.length : Nat)
    (Double.ofDecimal? n.negative significand (places + n.exponent.getD 0)).map .double

/-- The digits at the front, and what follows them. -/
def digits (cs : List Char) : List Char × List Char :=
  (cs.takeWhile Char.isDigit, cs.dropWhile Char.isDigit)

/-- The fraction at the front, if there is one; a point without digits is an error. -/
def fraction? : List Char → Option (Option (List Char) × List Char)
  | '.' :: rest =>
    let (ds, rest) := digits rest
    if ds.isEmpty then none else some (some ds, rest)
  | cs => some (none, cs)

/-- The exponent at the front, if there is one; one without digits is an error. -/
def exponent? : List Char → Option (Option Int × List Char)
  | c :: rest =>
    if c = 'e' ∨ c = 'E' then
      let (negative, rest) :=
        match rest with
        | '-' :: rest => (true, rest)
        | '+' :: rest => (false, rest)
        | rest => (false, rest)
      let (ds, rest) := digits rest
      if ds.isEmpty then none
      else some (some (if negative then -(ofDigits ds : Int) else ofDigits ds), rest)
    else some (none, c :: rest)
  | [] => some (none, [])

/-- The numeral at the front, and what follows it. -/
def numeral? (cs : List Char) : Option (Numeral × List Char) := do
  let (negative, cs) :=
    match cs with
    | '-' :: rest => (true, rest)
    | cs => (false, cs)
  let (whole, cs) := digits cs
  if whole.isEmpty || (whole.head? = some '0' && 1 < whole.length) then none
  let (fraction, cs) ← fraction? cs
  let (exponent, cs) ← exponent? cs
  some (⟨negative, whole, fraction, exponent⟩, cs)

/-- The number at the front, and what follows it; one that is passed over is null. -/
def readNumber? (o : Outline) (cs : List Char) : Option (Value × List Char) := do
  let (n, rest) ← numeral? cs
  match o with
  | .nothing => some (.null, rest)
  | _ => n.value?.map (·, rest)

/-! ## Reading values -/

/-- Lists and objects may nest this deep. -/
def maxDepth : Nat := 127

mutual

/-- The value at the front, as far as the outline asks for it, and what follows it. Every call uses
up one unit of `fuel`; `depth` is how many levels may still be opened. -/
def readValue? : (fuel depth : Nat) → Outline → List Char → Option (Value × List Char)
  | 0, _, _, _ => none
  | fuel + 1, depth, o, cs =>
    match skipBlanks cs with
    | '"' :: rest => (readText? o rest).map fun r => (.text r.1, r.2)
    | '[' :: rest =>
      match o.enter? depth with
      | none => none
      | some depth =>
        match skipBlanks rest with
        | ']' :: rest => some (.list [], rest)
        | rest => (readItems? fuel depth o rest).map fun r => (.list r.1, r.2)
    | '\x7b' :: rest =>
      match o.enter? depth with
      | none => none
      | some depth =>
        match skipBlanks rest with
        | '\x7d' :: rest => some (.members [], rest)
        | rest => (readMembers? fuel depth o rest).map fun r => (.members r.1, r.2)
    | 'n' :: 'u' :: 'l' :: 'l' :: rest => some (.null, rest)
    | 't' :: 'r' :: 'u' :: 'e' :: rest => some (.bool true, rest)
    | 'f' :: 'a' :: 'l' :: 's' :: 'e' :: rest => some (.bool false, rest)
    | rest => readNumber? o rest

/-- Items up to the closing bracket, at least one. -/
def readItems? : (fuel depth : Nat) → Outline → List Char → Option (List Value × List Char)
  | 0, _, _, _ => none
  | fuel + 1, depth, o, cs =>
    match readValue? fuel depth o.item cs with
    | none => none
    | some (v, rest) =>
      match skipBlanks rest with
      | ',' :: rest => (readItems? fuel depth o.afterItem rest).map fun r => (v :: r.1, r.2)
      | ']' :: rest => some ([v], rest)
      | _ => none

/-- Members up to the closing brace, at least one. -/
def readMembers? :
    (fuel depth : Nat) → Outline → List Char → Option (List (String × Value) × List Char)
  | 0, _, _, _ => none
  | fuel + 1, depth, o, cs =>
    match skipBlanks cs with
    | '"' :: rest =>
      match readText? o rest with
      | none => none
      | some (name, rest) =>
        match skipBlanks rest with
        | ':' :: rest =>
          match readValue? fuel depth (o.member name) rest with
          | none => none
          | some (v, rest) =>
            match skipBlanks rest with
            | ',' :: rest =>
              (readMembers? fuel depth o rest).map fun r => ((name, v) :: r.1, r.2)
            | '\x7d' :: rest => some ([(name, v)], rest)
            | _ => none
        | _ => none
    | _ => none

end

end Json

namespace Value

/-- The JSON text of a value. -/
def json (v : Value) : String := String.ofList (Json.chars v)

/-- The value that a JSON text writes out, as far as the outline asks for it, members in the order
of the text. No call of the reader comes twice between two characters, so twice the length bounds
the calls. -/
def document? (o : Outline) (s : String) : Option Value :=
  let cs := s.toList
  match Json.readValue? (2 * cs.length + 2) Json.maxDepth o cs with
  | some (v, rest) => if (Json.skipBlanks rest).isEmpty then some v else none
  | none => none

/-- The value that a JSON text stands for. -/
def ofJson? (s : String) : Option Value := (document? .all s).map ordered

end Value

end Workflow
