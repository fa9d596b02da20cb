/-
  GRAPHQL DOCUMENTS: the text of each operation, and its variables.

  A document is written line by line, every line ended, after one empty line.  `block` puts lines
  between a head with an opening brace and a closing brace.  The documents are fixed texts: what an
  operation is given goes into its variables and nowhere else.
-/
import LogDrain.Remote.Call

namespace LogDrain.Query

/-! ## Lines -/

/-- The head with an opening brace, the lines, and a closing brace after its indent. -/
def block (head indent : String) (lines : List String) : List String :=
  (head ++ " \x7b") :: (lines ++ [indent ++ "\x7d"])

/-- The lines as a document. -/
def documentOf (lines : List String) : String := "\n".intercalate ("" :: lines ++ [""])

/-- The fields that are read of an app. -/
def appFields : List String :=
  ["    id", "    name"] ++
    block "    organization" "    " ["        id", "        slug", "        rawSlug"]

/-! ## The operations -/

/-- The document of an operation. -/
def document : Query → String
  | .app _ =>
    documentOf (block "query GetApp($appName: String!)" ""
      (block "    app(name: $appName)" "" appFields))
  | .appsByRole .. =>
    documentOf (block "query GetAppsByRole($role: String!, $organizationId: ID!)" ""
      (block "    apps(role: $role, organizationId: $organizationId)" "    "
        (block "        nodes" "" appFields)))
  | .createApp .. =>
    documentOf (block "mutation CreateApp($input: CreateAppInput!)" ""
      (block "    createApp(input: $input)" "    " (block "        app" "" appFields)))
  | .addOn _ =>
    documentOf (block "query GetAddOn($name: String)" ""
      (block "    addOn(name: $name)" "    " ["        id", "        name", "        token"]))
  | .createAddOn .. =>
    documentOf (block "mutation CreateAddOn($input: CreateAddOnInput!)" ""
      (block "    createAddOn(input: $input)" "    "
        (block "        addOn" "        "
          ["            id", "            name", "            token"])))
  | .createToken .. =>
    documentOf
      (["mutation CreateLimitedAccessToken(", "    $name: String!,", "    $organizationId: ID!,",
        "    $profile: String!,", "    $profileParams: JSON,", "    $expiry: String"] ++
       block ")" ""
        ("    createLimitedAccessToken(" ::
         (block "        input:" "        "
           ["            name: $name,", "            organizationId: $organizationId,",
            "            profile: $profile,", "            profileParams: $profileParams,",
            "            expiry: $expiry"] ++
          block "    )" "    "
           (block "        limitedAccessToken" "        "
           ["            id", "            token"]))))
  | .setSecrets .. =>
    documentOf (block "mutation SetSecrets($input: SetSecretsInput!)" ""
      (block "    setSecrets(input: $input)" "    "
        (block "        release" "        " ["            id", "            version"])))
  | .nearestRegion =>
    documentOf (block "query GetNearestRegion" ""
      (block "    nearestRegion" "    " ["        code", "        name"]))

/-- A text, or null where there is none. -/
def textOrNull : Option String → Json
  | some s => .str s
  | none => .null

/-- The role that an app is created with: nothing for no role and for the empty one. -/
def roleField : Option String → Fields
  | none => []
  | some role => if role = "" then [] else [("appRoleId", .str role)]

/-- The variables of an operation, as fields. -/
def arguments : Query → Fields
  | .app name => [("appName", .str name)]
  | .appsByRole role organizationId =>
      [("role", .str role), ("organizationId", .str organizationId)]
  | .createApp organizationId name role machines =>
    [("input", .obj ([("organizationId", .str organizationId), ("name", .str name),
                      ("machines", .bool machines)] ++ roleField role))]
  | .addOn name => [("name", .str name)]
  | .createAddOn organizationId name appId addOnType =>
    [("input", .obj [("organizationId", .str organizationId), ("name", .str name),
                     ("appId", .str appId), ("type", .str addOnType)])]
  | .createToken name organizationId profile params expiry =>
    [("name", .str name), ("organizationId", .str organizationId), ("profile", .str profile),
     ("profileParams", params), ("expiry", textOrNull expiry)]
  | .setSecrets appId secrets =>
    [("input", .obj [("appId", .str appId), ("secrets", .arr (secrets.map Secret.toJson))])]
  | .nearestRegion => []

/-- What is sent for an operation: its document and its variables. -/
def toJson (q : Query) : Json :=
  .obj [("query", .str q.document), ("variables", .obj q.arguments)]

end LogDrain.Query
