import Postroom.Text.Blank

/-!
# Destination domains

Every batch goes to one destination domain, and queues, leases and statistics are kept by domain, so
a domain name is brought to one spelling when it is read.

* `Domain.ofText`: the name in its kept spelling.
* `Domain.unroutable`: the reserved name for recipients whose domain is not known.
-/

namespace Postroom

/-- A destination domain, by its name. -/
structure Domain where
  /-- The name in its kept spelling. -/
  name : String
  deriving DecidableEq, Inhabited

namespace Domain

/-- The characters without one full stop at the end. -/
def dropFinalDot (cs : List Char) : List Char :=
  if cs.getLast? = some '.' then cs.dropLast else cs

/-- The kept spelling: blank characters off both ends, then one final full stop off, then the ASCII
letters in lower case. -/
def spell (cs : List Char) : List Char :=
  (dropFinalDot (Text.trimChars cs)).map Char.toLower

/-- The domain that a text names. -/
def ofText (s : String) : Domain :=
  ⟨String.ofList (spell s.toList)⟩

/-- The reserved name of a domain that could not be found out. -/
def unroutable : Domain := ⟨"<invalid-domain>"⟩

/-- Whether this is the reserved name. -/
def isUnroutable (d : Domain) : Bool := d = unroutable

/-- The order of the names, by code points. -/
def le (a b : Domain) : Bool := compare a.name b.name != .gt

end Domain

end Postroom
