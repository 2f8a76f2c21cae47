import Workflow.Toml.Date

/-!
# Keys and simple values of TOML

The lexical part of the format: blanks, comments, the ends of lines, texts in their four kinds of
quotes, numbers, truth values and keys. A reader takes the characters from some place on and answers
with what stands there and the characters that follow.
-/

namespace Workflow.Toml

/-- Space and tab separate. -/
def isBlank (c : Char) : Bool := c = ' ' || c = '\t'

/-- The characters after blanks. -/
def skipBlanks (cs : List Char) : List Char := cs.dropWhile isBlank

/-- Control characters, the tab excepted, stand nowhere. -/
def isPlain (c : Char) : Bool := c = '\t' || (0x20 ≤ c.toNat && c.toNat ≠ 0x7f)

/-- What follows the end of a line. -/
def lineBreak? : List Char → Option (List Char)
  | '\n' :: rest => some rest
  | '\r' :: '\n' :: rest => some rest
  | _ => none

/-- The characters after a comment, if there is one. -/
def skipComment : List Char → List Char
  | '#' :: rest => rest.dropWhile isPlain
  | cs => cs

/-- The next line, where only blanks and a comment are left of this one. -/
def lineEnd? (cs : List Char) : Option (List Char) :=
  match skipComment (skipBlanks cs) with
  | [] => some []
  | rest => lineBreak? rest

/-! ## Texts -/

/-- The character that eight hexadecimal digits stand for. -/
def wideChar? (digits : List Char) : Option Char := do
  let ns ← digits.mapM Json.hexDigit?
  let n := ns.foldl (fun n d => n * 16 + d) 0
  if n ≤ 0x10ffff then Json.ofUnit? n else none

/-- The character after a backslash, unless it begins a code point. -/
def unescaped? (c : Char) : Option Char := if c = '/' then none else Json.unescaped? c

/-- What a backslash and the characters after it stand for. -/
def escape? : List Char → Option (Char × List Char)
  | 'u' :: a :: b :: c :: d :: rest => ((Json.hexQuad? a b c d).bind Json.ofUnit?).map (·, rest)
  | 'U' :: a :: b :: c :: d :: e :: f :: g :: h :: rest =>
    (wideChar? [a, b, c, d, e, f, g, h]).map (·, rest)
  | c :: rest => (unescaped? c).map (·, rest)
  | [] => none

/-- A text up to its closing double quote. -/
def basicText? : (fuel : Nat) → List Char → Option (List Char × List Char)
  | 0, _ => none
  | fuel + 1, cs =>
    match cs with
    | '"' :: rest => some ([], rest)
    | '\\' :: rest => do
      let (c, rest) ← escape? rest
      let (text, rest) ← basicText? fuel rest
      some (c :: text, rest)
    | c :: rest =>
      if isPlain c then (basicText? fuel rest).map fun r => (c :: r.1, r.2) else none
    | [] => none

/-- A text without escapes up to its closing single quote. -/
def literalText? : List Char → Option (List Char × List Char)
  | '\'' :: rest => some ([], rest)
  | c :: rest =>
    if isPlain c then (literalText? rest).map fun r => (c :: r.1, r.2) else none
  | [] => none

/-- The quotes that close a text of several lines: three, and up to two more that belong to it. -/
def closing? (quote : Char) (cs : List Char) : Option (List Char × List Char) :=
  let n := (cs.takeWhile (· = quote)).length
  if n < 3 then none
  else
    let own := min (n - 3) 2
    some (List.replicate own quote, cs.drop (own + 3))

/-- The characters after blanks and ends of lines. -/
def skipLines : List Char → List Char
  | '\r' :: '\n' :: rest => skipLines rest
  | c :: rest => if isBlank c || c = '\n' then skipLines rest else c :: rest
  | [] => []

/-- A text of several lines up to its closing quotes. Where escapes count, a backslash at the end
of a line takes the blanks and ends of lines after it away. -/
def longText? (quote : Char) (escapes : Bool) :
    (fuel : Nat) → List Char → Option (List Char × List Char)
  | 0, _ => none
  | fuel + 1, cs =>
    match closing? quote cs with
    | some r => some r
    | none =>
      match cs with
      | [] => none
      | c :: rest =>
        if c = '\\' && escapes then
          match lineBreak? (skipBlanks rest) with
          | some rest => longText? quote escapes fuel (skipLines rest)
          | none => do
            let (c, rest) ← escape? rest
            let (text, rest) ← longText? quote escapes fuel rest
            some (c :: text, rest)
        else
          match lineBreak? (c :: rest) with
          | some rest => (longText? quote escapes fuel rest).map fun r => ('\n' :: r.1, r.2)
          | none =>
            if isPlain c then (longText? quote escapes fuel rest).map fun r => (c :: r.1, r.2)
            else none

/-- A text of several lines; an end of line right after the opening quotes does not count. -/
def longTextAfter? (quote : Char) (escapes : Bool) (cs : List Char) :
    Option (List Char × List Char) :=
  longText? quote escapes (cs.length + 1) ((lineBreak? cs).getD cs)

/-! ## Numbers and truth values -/

/-- The digits of a number, among which single underscores may stand. -/
def digitRun? (isDigit : Char → Bool) : List Char → Option (List Char)
  | [] => none
  | [c] => if isDigit c then some [c] else none
  | c :: '_' :: rest => if isDigit c then (digitRun? isDigit rest).map (c :: ·) else none
  | c :: rest => if isDigit c then (digitRun? isDigit rest).map (c :: ·) else none

/-- The number that digits write in a base. -/
def ofDigits (base : Nat) (digits : List Char) : Nat :=
  digits.foldl (fun n c => n * base + (Json.hexDigit? c).getD 0) 0

/-- Whether a character is a digit in a base. -/
def isDigitOf (base : Nat) (c : Char) : Bool := (Json.hexDigit? c).any (· < base)

/-- The sign in front of a number, and what follows it. -/
def sign : List Char → Bool × List Char
  | '-' :: rest => (true, rest)
  | '+' :: rest => (false, rest)
  | cs => (false, cs)

/-- Decimal digits without a leading zero. -/
def wholeNumber? (cs : List Char) : Option Nat := do
  let digits ← digitRun? Char.isDigit cs
  if digits.head? = some '0' && 1 < digits.length then none else some (ofDigits 10 digits)

/-- An integer that fits 64 bits with sign. -/
def fitting? (n : Int) : Option Value :=
  if -9223372036854775808 ≤ n ∧ n ≤ 9223372036854775807 then some (.integer n) else none

/-- The integer that a run of characters writes. -/
def integer? (cs : List Char) : Option Value :=
  match cs with
  | '0' :: 'x' :: rest =>
    (digitRun? (isDigitOf 16) rest).bind fun ds => fitting? (ofDigits 16 ds)
  | '0' :: 'o' :: rest => (digitRun? (isDigitOf 8) rest).bind fun ds => fitting? (ofDigits 8 ds)
  | '0' :: 'b' :: rest => (digitRun? (isDigitOf 2) rest).bind fun ds => fitting? (ofDigits 2 ds)
  | _ =>
    let (negative, rest) := sign cs
    (wholeNumber? rest).bind fun n => fitting? (if negative then -(n : Int) else n)

/-- The double nearest to `digits · 10 ^ e`. A number below all doubles is no value; one above all
of them may not be written. -/
def decimal? (negative : Bool) (digits : Nat) (e : Int) : Option Value :=
  match Double.nearestDecimal? negative digits e with
  | some x => some (.double x)
  | none => if negative then some .null else none

/-- The double that a run of characters writes; numbers that are not finite are no value. -/
def double? (cs : List Char) : Option Value := do
  let (negative, body) := sign cs
  if body = ['i', 'n', 'f'] ∨ body = ['n', 'a', 'n'] then some .null
  else
    let isExponent (c : Char) : Bool := c = 'e' || c = 'E'
    let mantissa := body.takeWhile fun c => !isExponent c
    let e ← match body.dropWhile (fun c => !isExponent c) with
      | [] => some (0 : Int)
      | _ :: rest =>
        let (down, ds) := sign rest
        (digitRun? Char.isDigit ds).map fun ds =>
          if down then -(ofDigits 10 ds : Int) else ofDigits 10 ds
    let whole ← wholeNumber? (mantissa.takeWhile (· ≠ '.'))
    match mantissa.dropWhile (· ≠ '.') with
    | [] => if mantissa.length = body.length then none else decimal? negative whole e
    | _ :: rest =>
      let fraction ← digitRun? Char.isDigit rest
      decimal? negative (whole * Nat.pow 10 fraction.length + ofDigits 10 fraction)
        (e - fraction.length)

/-- Whether a character may stand in a key without quotes. -/
def isBare (c : Char) : Bool := c.isAlphanum || c = '_' || c = '-'

/-- A number, a truth value or a date. -/
def plainValue? (cs : List Char) : Option (Value × List Char) :=
  let inside (c : Char) : Bool := isBare c || c = '+' || c = '.'
  let word := cs.takeWhile inside
  let rest := cs.dropWhile inside
  if word = ['t', 'r', 'u', 'e'] then some (.bool true, rest)
  else if word = ['f', 'a', 'l', 's', 'e'] then some (.bool false, rest)
  else (date? cs).or (((integer? word).or (double? word)).map (·, rest))

/-! ## Keys -/

/-- One part of a key. -/
def keyPart? (cs : List Char) : Option (String × List Char) :=
  match cs with
  | '"' :: rest => (basicText? (rest.length + 1) rest).map fun r => (String.ofList r.1, r.2)
  | '\'' :: rest => (literalText? rest).map fun r => (String.ofList r.1, r.2)
  | _ =>
    match cs.takeWhile isBare with
    | [] => none
    | name => some (String.ofList name, cs.dropWhile isBare)

/-- Parts of a key with dots between them, as the path and the last part. -/
def keyParts? : (fuel : Nat) → List Char → Option ((List String × String) × List Char)
  | 0, _ => none
  | fuel + 1, cs => do
    let (first, rest) ← keyPart? (skipBlanks cs)
    match skipBlanks rest with
    | '.' :: rest =>
      let ((path, last), rest) ← keyParts? fuel rest
      some ((first :: path, last), rest)
    | rest => some (([], first), rest)

/-- A key has no more parts than this, and lists and inline tables nest no deeper. -/
def maxDepth : Nat := 79

/-- The key at the front, and what follows it. -/
def key? (cs : List Char) : Option ((List String × String) × List Char) :=
  (keyParts? cs.length cs).filter fun r => r.1.1.length < maxDepth

end Workflow.Toml
