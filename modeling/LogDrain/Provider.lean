/-
  LOG PROVIDERS: where logs can be delivered, and what each place needs.

  A manual provider declares the variables that the operator fills in, some of them optional.  An
  automatic one is backed by an add-on, whose token is written under `tokenSecret`.  The catalog is
  fixed; its slugs are distinct (the closing example).
-/

namespace LogDrain

/-- A place that logs can be delivered to. -/
structure Provider where
  slug : String
  name : String
  auto : Bool
  requiredVars : List String
  optionalVars : List String
  tokenSecret : Option String
  deriving DecidableEq, Repr

namespace Provider

/-- Every variable that the provider declares. -/
def allVars (p : Provider) : List String := p.requiredVars ++ p.optionalVars

/-- A provider whose credentials the operator supplies. -/
def manual (slug name : String) (requiredVars optionalVars : List String) : Provider :=
  { slug, name, auto := false, requiredVars, optionalVars, tokenSecret := none }

/-- A provider that an add-on backs. -/
def automatic (slug name tokenSecret : String) : Provider :=
  { slug, name, auto := true, requiredVars := [], optionalVars := [],
    tokenSecret := some tokenSecret }

/-- The providers on offer. -/
def catalog : List Provider :=
  [manual "aws_s3" "AWS S3"
     ["AWS_BUCKET", "AWS_REGION", "AWS_ACCESS_KEY_ID", "AWS_SECRET_ACCESS_KEY"] ["S3_ENDPOINT"],
   manual "axiom" "Axiom" ["AXIOM_TOKEN", "AXIOM_DATASET"] [],
   manual "datadog" "Datadog" ["DATADOG_API_KEY"] ["DATADOG_SITE"],
   manual "erasearch" "Erasearch" ["ERASEARCH_URL", "ERASEARCH_INDEX", "ERASEARCH_AUTH"] [],
   manual "honeycomb" "Honeycomb" ["HONEYCOMB_API_KEY", "HONEYCOMB_DATASET"] [],
   manual "http" "HTTP" ["HTTP_URL", "HTTP_TOKEN"] [],
   manual "humio" "Humio" ["HUMIO_TOKEN"] [],
   manual "mezmo" "Mezmo" ["MEZMO_API_KEY"] [],
   manual "logflare" "Logflare" ["LOGFLARE_API_KEY", "LOGFLARE_SOURCE_TOKEN"] [],
   automatic "logtail" "Logtail" "LOGTAIL_TOKEN",
   manual "loki" "Loki" ["LOKI_URL", "LOKI_USERNAME", "LOKI_PASSWORD"] [],
   manual "new_relic" "New Relic" ["NEW_RELIC_REGION", "NEW_RELIC_ACCOUNT_ID"]
     ["NEW_RELIC_LICENSE_KEY", "NEW_RELIC_INSERT_KEY"],
   manual "papertrail" "Papertrail" ["PAPERTRAIL_ENDPOINT"] ["PAPERTRAIL_ENCODING_CODEC"],
   manual "sematext" "Sematext" ["SEMATEXT_REGION", "SEMATEXT_TOKEN"] [],
   manual "uptrace" "Uptrace" ["UPTRACE_API_KEY", "UPTRACE_PROJECT"]
     ["UPTRACE_SINK_INPUT", "UPTRACE_SINK_ENCODING"]]

/-- The provider of the catalog with this slug. -/
def lookup? (slug : String) : Option Provider := catalog.find? (·.slug == slug)

/-- The slugs that an add-on can be provisioned for, with the kind of add-on. -/
def addOnTypes : List (String × String) :=
  [("logtail", "logtail"), ("upstash_redis", "upstash_redis")]

/-- The kind of add-on behind a slug. -/
def addOnType? (slug : String) : Option String := addOnTypes.lookup slug

example : (catalog.map (·.slug)).Nodup := by decide +kernel
example : catalog.length = 15 := by decide
example : (lookup? "loki").map (·.name) = some "Loki" ∧ lookup? "Loki" = none := by decide +kernel

end Provider

end LogDrain
