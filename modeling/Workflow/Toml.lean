import Workflow.Toml.Table
import Workflow.Toml.Text

/-!
# Reading TOML

`Value.ofToml?` is the value that a TOML document stands for: an object with a member for each key.
Tables may be written under headers, through dotted keys and inline, lists in brackets and under
double headers.
-/

namespace Workflow.Toml

/-- The characters after blanks, comments and ends of lines. -/
def skipSpace : (fuel : Nat) → List Char → List Char
  | 0, cs => cs
  | fuel + 1, cs =>
    match skipBlanks cs with
    | '#' :: rest => skipSpace fuel (rest.dropWhile isPlain)
    | cs =>
      match lineBreak? cs with
      | some rest => skipSpace fuel rest
      | none => cs

mutual

/-- The value at the front. Every call uses up one unit of `fuel`; `depth` is how many levels may
still be opened. -/
def value? : (fuel depth : Nat) → List Char → Option (Value × List Char)
  | 0, _, _ => none
  | fuel + 1, depth, cs =>
    let text (r : List Char × List Char) : Value × List Char := (.text (String.ofList r.1), r.2)
    match cs with
    | '"' :: '"' :: '"' :: rest => (longTextAfter? '"' true rest).map text
    | '\'' :: '\'' :: '\'' :: rest => (longTextAfter? '\'' false rest).map text
    | '"' :: rest => (basicText? (rest.length + 1) rest).map text
    | '\'' :: rest => (literalText? rest).map text
    | '[' :: rest =>
      match depth with
      | 0 => none
      | depth + 1 => (items? fuel depth rest).map fun r => (.list r.1, r.2)
    | '\x7b' :: rest =>
      match depth with
      | 0 => none
      | depth + 1 =>
        match skipBlanks rest with
        | '\x7d' :: rest => some (.members [], rest)
        | rest => (pairs? fuel depth rest []).map fun r => (.members (Node.values r.1), r.2)
    | _ => plainValue? cs

/-- The items of a list up to its closing bracket. -/
def items? : (fuel depth : Nat) → List Char → Option (List Value × List Char)
  | 0, _, _ => none
  | fuel + 1, depth, cs =>
    match skipSpace cs.length cs with
    | ']' :: rest => some ([], rest)
    | cs =>
      match value? fuel depth cs with
      | none => none
      | some (v, rest) =>
        match skipSpace rest.length rest with
        | ',' :: rest => (items? fuel depth rest).map fun r => (v :: r.1, r.2)
        | ']' :: rest => some ([v], rest)
        | _ => none

/-- The members of an inline table up to its closing brace, written into a table. -/
def pairs? : (fuel depth : Nat) → List Char → Named → Option (Named × List Char)
  | 0, _, _, _ => none
  | fuel + 1, depth, cs, named =>
    match key? cs with
    | some ((path, key), '=' :: rest) =>
      match value? fuel depth (skipBlanks rest) with
      | none => none
      | some (v, rest) =>
        match Node.assign path key v .header named with
        | none => none
        | some named =>
          match skipBlanks rest with
          | ',' :: rest => pairs? fuel depth rest named
          | '\x7d' :: rest => some (named, rest)
          | _ => none
    | _ => none

end

/-- A key with its value at the front of a line. -/
def pair? (cs : List Char) : Option (((List String × String) × Value) × List Char) := do
  match ← key? cs with
  | (key, '=' :: rest) =>
    let (v, rest) ← value? (2 * rest.length + 2) maxDepth (skipBlanks rest)
    some ((key, v), rest)
  | _ => none

/-- A header up to its closing brackets, of which there are `closing`. -/
def header? (closing cs : List Char) : Option ((List String × String) × List Char) := do
  let (key, rest) ← key? cs
  if closing.isPrefixOf rest then some (key, rest.drop closing.length) else none

/-- Read a document line by line, writing into the table of the last header. -/
def document? : (fuel : Nat) → List Char → (current : List String) → Named → Option Named
  | 0, _, _, _ => none
  | fuel + 1, cs, current, named =>
    match skipBlanks cs with
    | [] => some named
    | '[' :: '[' :: rest => do
      let ((path, key), rest) ← header? [']', ']'] rest
      let named ← Node.openItem path key named
      let rest ← lineEnd? rest
      document? fuel rest (path ++ [key]) named
    | '[' :: rest => do
      let ((path, key), rest) ← header? [']'] rest
      let named ← Node.openTable path key named
      let rest ← lineEnd? rest
      document? fuel rest (path ++ [key]) named
    | cs =>
      match lineEnd? cs with
      | some rest => document? fuel rest current named
      | none => do
        let (((path, key), v), rest) ← pair? cs
        let named ← Node.alter false (Node.assign path key v) current .header named
        let rest ← lineEnd? rest
        document? fuel rest current named

end Toml

/-- The value that a TOML document stands for. -/
def Value.ofToml? (s : String) : Option Value :=
  let cs := s.toList
  let cs := if cs.head? = some '\ufeff' then cs.drop 1 else cs
  (Toml.document? (cs.length + 1) cs [] []).map fun named => .members (Toml.Node.values named)

end Workflow
