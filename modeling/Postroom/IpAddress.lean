import Postroom.Text.Quoted

/-!
# Internet addresses

The addresses from which sessions start, of both versions, and their textual form.

* `IpAddress.ofText?`: the address that a text denotes, if it denotes one.
* `IpAddress.toText`: the canonical text; of version 6 the longest run of zero groups is left out.
-/

namespace Postroom

/-- An Internet address. -/
inductive IpAddress where
  /-- Four octets. -/
  | v4 (octets : List Nat)
  /-- Eight groups of sixteen bits. -/
  | v6 (groups : List Nat)
  deriving DecidableEq, Inhabited

namespace IpAddress

/-- The value of a digit to a base of at most sixteen. -/
def digitValue? (base : Nat) (c : Char) : Option Nat :=
  let v? :=
    if '0' ≤ c ∧ c ≤ '9' then some (c.toNat - '0'.toNat)
    else if 'a' ≤ c ∧ c ≤ 'f' then some (c.toNat - 'a'.toNat + 10)
    else if 'A' ≤ c ∧ c ≤ 'F' then some (c.toNat - 'A'.toNat + 10)
    else none
  v?.filter (· < base)

/-- The number written by one to `most` digits. -/
def number? (base most : Nat) (cs : List Char) : Option Nat :=
  if cs.isEmpty || most < cs.length then none
  else cs.foldlM (fun n c => (digitValue? base c).map (n * base + ·)) 0

/-- The pieces of a text between occurrences of `sep`. -/
def pieces (sep : Char) : List Char → List (List Char)
  | [] => [[]]
  | c :: cs =>
    if c = sep then [] :: pieces sep cs
    else match pieces sep cs with
      | [] => [[c]]
      | p :: ps => (c :: p) :: ps

/-- An octet in decimal, without leading zeros. -/
def octet? (cs : List Char) : Option Nat :=
  if cs.head? = some '0' && cs.length ≠ 1 then none
  else (number? 10 3 cs).filter (· < 256)

/-- Four octets between full stops. -/
def octets? (cs : List Char) : Option (List Nat) := do
  let octets ← (pieces '.' cs).mapM octet?
  if octets.length = 4 then some octets else none

/-- Two groups for the four octets of a version 4 address. -/
def groupsOfOctets : List Nat → List Nat
  | [a, b, c, d] => [a * 256 + b, c * 256 + d]
  | _ => []

/-- Groups between colons; where `mixed`, the last piece may be a version 4 address. -/
def groupsOfPieces? (mixed : Bool) : List (List Char) → Option (List Nat)
  | [] => some []
  | [p] =>
    match number? 16 4 p with
    | some g => some [g]
    | none => if mixed then (octets? p).map groupsOfOctets else none
  | p :: ps => do
    let g ← number? 16 4 p
    let gs ← groupsOfPieces? mixed ps
    some (g :: gs)

/-- The groups on one side of the gap; nothing stands for no group. -/
def side? (mixed : Bool) (cs : List Char) : Option (List Nat) :=
  if cs.isEmpty then some [] else groupsOfPieces? mixed (pieces ':' cs)

/-- The texts before and after the first double colon. -/
def splitGap : List Char → Option (List Char × List Char)
  | ':' :: ':' :: cs => some ([], cs)
  | c :: cs => (splitGap cs).map fun p => (c :: p.1, p.2)
  | [] => none

/-- Eight groups, of which a double colon may leave out a run of zeros. -/
def groups? (cs : List Char) : Option (List Nat) :=
  match splitGap cs with
  | none => do
    let gs ← groupsOfPieces? true (pieces ':' cs)
    if gs.length = 8 then some gs else none
  | some (before, after) => do
    let front ← side? false before
    let back ← side? true after
    if front.length + back.length ≤ 7 then
      some (front ++ List.replicate (8 - front.length - back.length) 0 ++ back)
    else none

/-- The address that a text denotes. -/
def ofText? (s : String) : Option IpAddress :=
  match octets? s.toList with
  | some octets => some (.v4 octets)
  | none => (groups? s.toList).map .v6

/-- The octets with full stops between them. -/
def dotted (octets : List Nat) : String :=
  ".".intercalate (octets.map toString)

/-- The groups with colons between them. -/
def colons (groups : List Nat) : String :=
  ":".intercalate (groups.map fun g => String.ofList (Text.hexDigits g))

/-- The number of zeros at the start. -/
def leadingZeros (groups : List Nat) : Nat :=
  (groups.takeWhile (· = 0)).length

/-- The start and the length of the longest run of zeros; of two equally long, the first. -/
def longestZeros : List Nat → Nat × Nat
  | [] => (0, 0)
  | g :: gs =>
    let rest := longestZeros gs
    let here := leadingZeros (g :: gs)
    if rest.2 ≤ here then (0, here) else (rest.1 + 1, rest.2)

/-- The canonical text of eight groups. -/
def groupsText (groups : List Nat) : String :=
  match groups with
  | [0, 0, 0, 0, 0, 0xFFFF, g, h] =>
    "::ffff:" ++ dotted [g / 256, g % 256, h / 256, h % 256]
  | _ =>
    let run := longestZeros groups
    if run.2 ≤ 1 then colons groups
    else colons (groups.take run.1) ++ "::" ++ colons (groups.drop (run.1 + run.2))

/-- The canonical text. -/
def toText : IpAddress → String
  | v4 octets => dotted octets
  | v6 groups => groupsText groups

end IpAddress

end Postroom
