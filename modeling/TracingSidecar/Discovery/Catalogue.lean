import TracingSidecar.Text.Ascii

/-!
# The catalogue of a cluster

A cluster serves groups of resources in versions.  A group recommends one version: its preferred
one, or else the one of the highest priority, which is the greatest stable version, then the
greatest beta, then the greatest alpha.
-/

namespace TracingSidecar

/-- A version of a group and the kinds of resources served in it. -/
structure ServedVersion where
  name : String
  kinds : List String
  deriving DecidableEq, Repr

/-- A group of resources with the versions it is served in. -/
structure ServedGroup where
  name : String
  versions : List ServedVersion
  preferred : Option String := none
  deriving DecidableEq, Repr

/-- How settled a version is, by its name. -/
inductive Stability where
  /-- A name of no known form; the earlier name in the order of texts counts more. -/
  | unknown (name : String)
  | alpha (major : Nat) (minor : Option Nat)
  | beta (major : Nat) (minor : Option Nat)
  | stable (major : Nat)
  deriving DecidableEq, Repr

namespace Stability

/-- A natural number of 32 bits, with an optional plus sign. -/
def number? (digits : List Char) : Option Nat :=
  let digits := match digits with
    | '+' :: rest => rest
    | digits => digits
  (Text.natural? digits).filter (· < UInt32.size)

/-- An optional number behind a word. -/
def minor? : List Char → Option (Option Nat)
  | [] => some none
  | digits => (number? digits).map some

/-- The stability of a version name `v1`, `v1beta2` or `v1alpha2`, if it has such a form. -/
def recognize? (name : String) : Option Stability := do
  let rest ← ['v'].isPrefixOf? name.toList
  let major ← number? (rest.takeWhile Char.isDigit)
  let suffix := rest.dropWhile Char.isDigit
  if suffix.isEmpty then some (.stable major)
  else
    match "alpha".toList.isPrefixOf? suffix, "beta".toList.isPrefixOf? suffix with
    | some digits, _ => (minor? digits).map (.alpha major)
    | none, some digits => (minor? digits).map (.beta major)
    | none, none => none

def ofName (name : String) : Stability := (recognize? name).getD (.unknown name)

/-- Whether an optional number is greater than another; any number is greater than none. -/
def minorAbove : Option Nat → Option Nat → Bool
  | none, _ => false
  | some _, none => true
  | some a, some b => b < a

/-- Whether a version has a higher priority than another. -/
def above : Stability → Stability → Bool
  | .stable a, .stable b => b < a
  | .stable _, _ => true
  | .beta _ _, .stable _ => false
  | .beta a m, .beta b n => b < a || (a = b && minorAbove m n)
  | .beta _ _, _ => true
  | .alpha a m, .alpha b n => b < a || (a = b && minorAbove m n)
  | .alpha _ _, .unknown _ => true
  | .alpha _ _, _ => false
  | .unknown a, .unknown b => a < b
  | .unknown _, _ => false

end Stability

namespace ServedGroup

/-- The version of the highest priority; of several the first. -/
def highest? : List ServedVersion → Option ServedVersion
  | [] => none
  | version :: rest =>
      match highest? rest with
      | none => some version
      | some best =>
          if (Stability.ofName best.name).above (Stability.ofName version.name) then some best
          else some version

/-- The name of the version that a group recommends.  A preferred version that the group does not
list recommends nothing. -/
def recommended? (group : ServedGroup) : Option String :=
  (group.preferred.or ((highest? group.versions).map (·.name))).filter fun name =>
    group.versions.any (·.name = name)

end ServedGroup

end TracingSidecar
