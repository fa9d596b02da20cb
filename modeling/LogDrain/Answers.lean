/-
  THE OPERATOR'S ANSWERS: which provider is chosen, and the values of its variables.

  A choice is compared with the slugs and the names after trimming and in lower case; the first
  provider that fits is chosen.  The values are then checked against the provider: a key that it
  does not declare is refused before a required variable that is blank or missing.  What is
  collected is the required variables in order and then the optional ones that are not blank, each
  value as it was given.
-/
import LogDrain.Provider
import LogDrain.Resource.AddOn
import LogDrain.Text.Blank
import LogDrain.Text.LowerCase

namespace LogDrain

/-- What the operator answered: a trimmed choice, and the values by variable. -/
structure Answers where
  choice : String
  values : List (String × String)

/-- What can be wrong with the answers. -/
inductive AnswersFault where
  | noChoice
  | unknownProvider (choice : String) (slugs : List String)
  | unexpectedKeys (slug : String) (keys : List String)
  | missingVars (slug : String) (vars : List String)
  deriving DecidableEq, Repr

/-- Texts in a row, parted by a comma and a space. -/
def commaList (texts : List String) : String := ", ".intercalate texts

/-- The fault in words. -/
def AnswersFault.message : AnswersFault → String
  | .noChoice => "No logging provider selected"
  | .unknownProvider choice slugs =>
    "Unknown logging provider: " ++ Text.quoted choice ++
      " (choose one of: " ++ commaList slugs ++ ")"
  | .unexpectedKeys slug keys =>
    "Unexpected secrets for provider " ++ slug ++ ": " ++ commaList keys
  | .missingVars slug vars =>
    "Missing required secrets for provider " ++ slug ++ ": " ++ commaList vars

/-! ## Order of texts -/

/-- The text put before the first one that is greater, by code points. -/
def insertText (s : String) : List String → List String
  | [] => [s]
  | t :: ts => if t < s then t :: insertText s ts else s :: t :: ts

/-- The texts in order of their code points. -/
def sortTexts (texts : List String) : List String := texts.foldr insertText []

namespace Answers

/-- The answers as given; no choice counts as an empty one. -/
def of (choice : Option String) (values : List (String × String)) : Answers :=
  { choice := Text.trim (choice.getD ""), values }

/-! ## The choice -/

/-- Is this the provider that the choice, in lower case, stands for? -/
def fits (wanted : String) (p : Provider) : Bool :=
  Text.lower p.slug == wanted || Text.lower p.name == wanted

/-- The provider chosen among those on offer. -/
def select (answers : Answers) (offer : List Provider) : Except AnswersFault Provider :=
  if answers.choice = "" then .error .noChoice
  else
    match offer.find? (fits (Text.lower answers.choice)) with
    | some p => .ok p
    | none => .error (.unknownProvider answers.choice (offer.map (·.slug)))

/-! ## The values -/

/-- The value given for a variable; the empty text where none is. -/
def value (answers : Answers) (key : String) : String := (answers.values.lookup key).getD ""

/-- Is there more than blank characters for the variable? -/
def isFilled (answers : Answers) (key : String) : Bool := !Text.isBlankText (answers.value key)

/-- The keys answered that the provider does not declare, in order. -/
def unexpected (answers : Answers) (p : Provider) : List String :=
  sortTexts ((answers.values.map (·.1)).filter fun key => !p.allVars.contains key)

/-- The required variables without a value. -/
def missing (answers : Answers) (p : Provider) : List String :=
  p.requiredVars.filter fun key => !answers.isFilled key

/-- The variables that have to be or may be written. -/
def collectedVars (answers : Answers) (p : Provider) : List String :=
  p.requiredVars ++ p.optionalVars.filter answers.isFilled

/-- The provider's secrets. -/
def collect (answers : Answers) (p : Provider) : Except AnswersFault (List Secret) :=
  if answers.unexpected p ≠ [] then .error (.unexpectedKeys p.slug (answers.unexpected p))
  else if answers.missing p ≠ [] then .error (.missingVars p.slug (answers.missing p))
  else .ok ((answers.collectedVars p).map fun key => ⟨key, answers.value key⟩)

/-! ## One choice of each kind -/

example : ((of (some " DataDog\n") []).select Provider.catalog).toOption.map (·.slug) =
    some "datadog" := by decide +kernel
example : ((of (some "aws s3") []).select Provider.catalog).toOption.map (·.slug) =
    some "aws_s3" := by decide +kernel
example : (of none [("Z", "1"), ("A", "2"), ("DATADOG_SITE", "")]).unexpected
    (.manual "datadog" "Datadog" ["DATADOG_API_KEY"] ["DATADOG_SITE"]) = ["A", "Z"] := by
  decide +kernel

end Answers

end LogDrain
