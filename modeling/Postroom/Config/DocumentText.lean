import Postroom.Config.Document
import Postroom.Count
import Postroom.IpAddress

/-!
# The text of documents

How a document is written: `null`, `true`, `false`, numbers, texts in double quotes, lists in square
brackets, records in curly brackets, with blanks between them where one likes.

* `DocumentText.quoted`, `DocumentText.number`: the pieces without parts.
* `DocumentText.value`: any document. `Document.ofText?`: a document that is the whole text.
-/

namespace Postroom

namespace DocumentText

/-- A reader takes something from the front of a text and leaves the rest. -/
abbrev Reader (α : Type) := List Char → Option (α × List Char)

/-- The text from the first character that is no blank. -/
def skipBlanks (cs : List Char) : List Char :=
  cs.dropWhile fun c => c = ' ' || c = '\t' || c = '\n' || c = '\r'

/-! ## Texts in quotes -/

/-- The character that stands for itself or for a control character after a backslash. -/
def escaped? : Char → Option Char
  | '"' => some '"'
  | '\\' => some '\\'
  | '/' => some '/'
  | 'b' => some '\x08'
  | 'f' => some '\x0c'
  | 'n' => some '\n'
  | 'r' => some '\r'
  | 't' => some '\t'
  | _ => none

/-- Whether a unit of sixteen bits is the first half of a pair. -/
def isHighHalf (n : Nat) : Bool := 0xD800 ≤ n && n < 0xDC00

/-- Whether a unit of sixteen bits is the second half of a pair. -/
def isLowHalf (n : Nat) : Bool := 0xDC00 ≤ n && n < 0xE000

/-- The character of a pair. -/
def paired (high low : Nat) : Char :=
  Char.ofNat (0x10000 + (high - 0xD800) * 0x400 + (low - 0xDC00))

/-- The rest of a text after its opening quote, with what was read of it in reverse. -/
def quotedFrom (read : List Char) : Reader String
  | '"' :: cs => some (String.ofList read.reverse, cs)
  | '\\' :: 'u' :: a :: b :: c :: d :: cs =>
    match IpAddress.number? 16 4 [a, b, c, d] with
    | none => none
    | some n =>
      if isHighHalf n then
        match cs with
        | '\\' :: 'u' :: e :: f :: g :: h :: cs =>
          match IpAddress.number? 16 4 [e, f, g, h] with
          | some m => if isLowHalf m then quotedFrom (paired n m :: read) cs else none
          | none => none
        | _ => none
      else if isLowHalf n then none
      else quotedFrom (Char.ofNat n :: read) cs
  | '\\' :: c :: cs =>
    match escaped? c with
    | some c => quotedFrom (c :: read) cs
    | none => none
  | c :: cs => if c < ' ' then none else quotedFrom (c :: read) cs
  | [] => none

/-- A text after its opening quote. -/
def quoted : Reader String := quotedFrom []

/-! ## Numbers -/

/-- Decimal digits, at least one. -/
def digits : Reader (List Char) := fun cs =>
  match cs.span Char.isDigit with
  | ([], _) => none
  | (ds, rest) => some (ds, rest)

/-- The number that decimal digits write. -/
def valueOf (ds : List Char) : Nat := ds.foldl (fun n c => n * 10 + (c.toNat - '0'.toNat)) 0

/-- Digits after a point; none where no point stands. -/
def fraction : Reader (List Char)
  | '.' :: cs => digits cs
  | cs => some ([], cs)

/-- Digits of an exponent with their sign. -/
def signed : Reader Int
  | '-' :: cs => (digits cs).map fun p => (-(valueOf p.1 : Int), p.2)
  | '+' :: cs => (digits cs).map fun p => ((valueOf p.1 : Int), p.2)
  | cs => (digits cs).map fun p => ((valueOf p.1 : Int), p.2)

/-- An exponent, if there is one. -/
def exponent : Reader (Option Int)
  | 'e' :: cs | 'E' :: cs => (signed cs).map fun p => (some p.1, p.2)
  | cs => some (none, cs)

/-- The number with this sign, whole part, fraction and exponent. It is whole where it has neither
fraction nor exponent and fits into 64 bits; minus zero is not whole. -/
def numberOf (negative : Bool) (whole fraction : List Char) (exponent : Option Int) : Document :=
  let n := valueOf whole
  let fits := if negative then n ≠ 0 && n ≤ twoTo 63 else n < twoTo 64
  if fraction.isEmpty && exponent.isNone && fits then .whole (if negative then -n else n)
  else
    let shift := exponent.getD 0 - fraction.length
    let x := Float.ofScientific (valueOf (whole ++ fraction)) (shift < 0) shift.natAbs
    .real (if negative then -x else x)

/-- A number without its sign. -/
def unsigned (negative : Bool) : Reader Document := fun cs => do
  let (whole, cs) ← digits cs
  if whole.head? = some '0' && whole.length ≠ 1 then none
  let (fraction, cs) ← fraction cs
  let (exponent, cs) ← exponent cs
  some (numberOf negative whole fraction exponent, cs)

/-- A number. -/
def number : Reader Document
  | '-' :: cs => unsigned true cs
  | cs => unsigned false cs

/-! ## Documents -/

/-- The rest of a word of which the first letter was read. -/
def wordRest (rest : String) (d : Document) : Reader Document := fun cs =>
  if cs.take rest.length = rest.toList then some (d, cs.drop rest.length) else none

mutual

/-- A document. The first argument bounds the depth of the recursion. -/
def value : Nat → Reader Document
  | 0, _ => none
  | n + 1, cs =>
    match skipBlanks cs with
    | '"' :: cs => (quoted cs).map fun p => (.text p.1, p.2)
    | '[' :: cs =>
      match skipBlanks cs with
      | ']' :: cs => some (.list [], cs)
      | cs => (items n cs).map fun p => (.list p.1, p.2)
    | '\x7b' :: cs =>
      match skipBlanks cs with
      | '\x7d' :: cs => some (.record [], cs)
      | cs => (entries n cs).map fun p => (.record p.1, p.2)
    | 'n' :: cs => wordRest "ull" .null cs
    | 't' :: cs => wordRest "rue" (.flag true) cs
    | 'f' :: cs => wordRest "alse" (.flag false) cs
    | cs => number cs

/-- The items of a list, at least one, and its end. -/
def items : Nat → Reader (List Document)
  | 0, _ => none
  | n + 1, cs =>
    match value n cs with
    | none => none
    | some (d, cs) =>
      match skipBlanks cs with
      | ',' :: cs => (items n cs).map fun p => (d :: p.1, p.2)
      | ']' :: cs => some ([d], cs)
      | _ => none

/-- The entries of a record, at least one, and its end. -/
def entries : Nat → Reader (List (String × Document))
  | 0, _ => none
  | n + 1, cs =>
    match skipBlanks cs with
    | '"' :: cs =>
      match quoted cs with
      | none => none
      | some (name, cs) =>
        match skipBlanks cs with
        | ':' :: cs =>
          match value n cs with
          | none => none
          | some (d, cs) =>
            match skipBlanks cs with
            | ',' :: cs => (entries n cs).map fun p => ((name, d) :: p.1, p.2)
            | '\x7d' :: cs => some ([(name, d)], cs)
            | _ => none
        | _ => none
    | _ => none

end

end DocumentText

/-- The document that a text writes. Every character opens at most one list or record and one of its
parts, which bounds the recursion. -/
def Document.ofText? (s : String) : Option Document :=
  match DocumentText.value (2 * s.length + 1) s.toList with
  | some (d, rest) => if (DocumentText.skipBlanks rest).isEmpty then some d else none
  | none => none

end Postroom
