/-
  ORGANIZATIONS AND APPS, and how they are read from the GraphQL API.

  Identities are texts: whatever stands in a field is shown as text, an absent field as `None`.  An
  organization without a raw slug has its slug for one, and an app without an organization reads the
  one that has no fields.
-/
import LogDrain.Json.Display
import LogDrain.Resource.Shape

namespace LogDrain

/-- An organization.  `rawSlug` is the slug as stored, `slug` may be an alias of it. -/
structure Organization where
  id : String
  slug : String
  rawSlug : String
  deriving DecidableEq, Repr

/-- An app and the organization it belongs to. -/
structure App where
  id : String
  name : String
  organization : Organization
  deriving DecidableEq, Repr

/-- The organization that a value describes. -/
def Organization.ofJson (v : Json) : Except ShapeFault Organization := do
  let id ← v.member "id"
  let slug ← v.member "slug"
  let rawSlug ← v.member "rawSlug"
  return { id := id.display, slug := slug.display, rawSlug := (rawSlug.orElse slug).display }

/-- The app that a value describes. -/
def App.ofJson (v : Json) : Except ShapeFault App := do
  let id ← v.member "id"
  let name ← v.member "name"
  let organization ← v.member "organization"
  let owner ← Organization.ofJson (organization.orElse (.obj []))
  return { id := id.display, name := name.display, organization := owner }

example : Organization.ofJson (.obj []) = .ok ⟨"None", "None", "None"⟩ := rfl
example : Organization.ofJson .null = .error .noFields := rfl

end LogDrain
