import Intake.Schema.Registry

set_option autoImplicit false

/-!
# Listing the types of rules

## Main definitions

* `Registry.listing` — a line for each type.
* `Registry.overview` — the lines with a heading and a total.
-/

namespace Intake

/-- How many characters a name takes in a listing, at least. -/
def listingWidth : Nat := 14

/-- A text filled up with blanks to the width of a listing. -/
def padName (name : String) : String :=
  name ++ String.ofList (List.replicate (listingWidth - name.length) ' ')

/-- The line of a type with the names of its parameters. -/
def listingLine (name : String) (params : List String) : String :=
  padName name ++ " " ++ if params.isEmpty then "(no params)" else ", ".intercalate params

namespace Registry

/-- A line for each type, in the order of registration. -/
def listing (registry : Registry) : List String :=
  registry.definitions.map fun e => listingLine e.1 e.2.paramNames

/-- The listing with a heading and the number of types. -/
def overview (registry : Registry) : List String :=
  ["Registered validator types:", ""] ++ registry.listing.map ("  " ++ ·) ++
    ["", "Total: " ++ String.ofList (natChars registry.names.length) ++ " validator types"]

end Registry

end Intake
