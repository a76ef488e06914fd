import Postroom.Count

/-!
# Documents

The structured data in which a configuration is written, and how single values are read from it.

* `Document`: a piece of structured data.
* `Document.natural?`, `Document.real?`, and so on: the value that a piece denotes, if it does.
* `Document.fields?`: a group of settings, written by name or as a list in order.
* `Fields.read?`: one setting, which has a default where it is not written.
-/

namespace Postroom

/-- A piece of structured data. -/
inductive Document where
  | null
  | flag (b : Bool)
  /-- A number written without fraction and exponent, of at most 64 bits. -/
  | whole (n : Int)
  /-- Any other number. -/
  | real (x : Float)
  | text (s : String)
  | list (items : List Document)
  /-- Of equal names the last counts. -/
  | record (entries : List (String × Document))

/-- The settings of a group as they are written. -/
inductive Fields where
  | named (entries : List (String × Document))
  | listed (items : List Document)

namespace Document

/-- A whole number of so many bits without sign. -/
def natural? (bits : Nat) : Document → Option Nat
  | whole n => if 0 ≤ n ∧ n < twoTo bits then some n.toNat else none
  | _ => none

/-- The floating-point number nearest to a whole number. -/
def nearest (n : Int) : Float :=
  let x := Float.ofScientific n.natAbs false 0
  if n < 0 then -x else x

def real? : Document → Option Float
  | whole n => some (nearest n)
  | real x => some x
  | _ => none

def text? : Document → Option String
  | text s => some s
  | _ => none

def flag? : Document → Option Bool
  | flag b => some b
  | _ => none

/-- Nothing, or what `read` reads. -/
def optional? {α : Type} (read : Document → Option α) : Document → Option (Option α)
  | null => some none
  | d => (read d).map some

def list? {α : Type} (read : Document → Option α) : Document → Option (List α)
  | list items => items.mapM read
  | _ => none

/-- The entries of a record, each name once, with its last value. -/
def entries? : Document → Option (List (String × Document))
  | record entries =>
    some (entries.foldl (fun kept e => kept.filter (·.1 ≠ e.1) ++ [e]) [])
  | _ => none

/-- A record read entry by entry. -/
def table? {κ υ : Type} (readKey : String → Option κ) (read : Document → Option υ) (d : Document) :
    Option (List (κ × υ)) := do
  let entries ← d.entries?
  entries.mapM fun e => do
    let k ← readKey e.1
    let v ← read e.2
    some (k, v)

/-- A group of at most `most` settings. -/
def fields? (most : Nat) : Document → Option Fields
  | list items => if items.length ≤ most then some (.listed items) else none
  | d => d.entries?.map .named

end Document

/-- What is written for the setting at a place in the group, or under its name. -/
def Fields.find? (f : Fields) (place : Nat) (name : String) : Option Document :=
  match f with
  | named entries => (entries.find? (·.1 = name)).map Prod.snd
  | listed items => items[place]?

/-- One setting, or its default. -/
def Fields.read? {α : Type} (f : Fields) (place : Nat) (name : String) (default : α)
    (read : Document → Option α) : Option α :=
  match f.find? place name with
  | none => some default
  | some d => read d

end Postroom
