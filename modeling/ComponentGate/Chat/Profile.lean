import ComponentGate.Request.Basic
import ComponentGate.Text.Entries

/-!
Where a provider's models are reached, which variables of the environment hold its key and another
address for it, and which model answers when none is named.
-/

namespace ComponentGate.Chat

structure Profile where
  name : String
  baseUrl : String
  keyVariable : String
  defaultModel : String
  deriving DecidableEq, Repr, Inhabited

/-- Why no connection can be made. -/
inductive ConfigError where
  | unsupportedProvider (name : String)
  | noKey (profile : Profile)
  /-- A key goes out in a header, which holds the characters of ASCII alone. -/
  | unsendableKey
  deriving DecidableEq, Repr

def ConfigError.message : ConfigError → String
  | .unsupportedProvider name => s!"Unsupported provider: {name}"
  | .noKey profile =>
    s!"No API key for provider '{profile.name}'. " ++
      s!"Pass api_key= or set the {profile.keyVariable} environment variable."
  | .unsendableKey => "The API key has characters that no header can hold."

namespace Profile

/-- The variable with an address that replaces the profile's own. -/
def baseUrlVariable (profile : Profile) : String :=
  s!"VIBEGUARD_{String.ofList (profile.name.toList.map Char.toUpper)}_BASE_URL"

def ofProvider : Provider → Profile
  | .openai =>
    { name := Provider.openai.name
      baseUrl := "https://api.openai.com/v1"
      keyVariable := "OPENAI_API_KEY"
      defaultModel := "gpt-4o" }
  | .anthropic =>
    { name := Provider.anthropic.name
      baseUrl := "https://api.anthropic.com/v1"
      keyVariable := "ANTHROPIC_API_KEY"
      defaultModel := "claude-3-5-sonnet-20241022" }
  | .google =>
    { name := Provider.google.name
      baseUrl := "https://generativelanguage.googleapis.com/v1beta/openai"
      keyVariable := "GOOGLE_GENERATIVE_AI_API_KEY"
      defaultModel := "gemini-2.5-pro-latest" }

/-- The profile of the provider with a name. -/
def named (name : String) : Except ConfigError Profile :=
  match Provider.all.find? fun provider => provider.name == name with
  | some provider => .ok (ofProvider provider)
  | none => .error (.unsupportedProvider name)

end Profile

/-- Variables with their values. -/
abbrev Environment := List (String × String)

/-- What a caller sets for a connection; the rest comes from the environment and the profile. -/
structure ConnectionOptions where
  key : Option String
  model : Option String
  baseUrl : Option String
  deriving DecidableEq, Repr, Inhabited

/-- A way to a provider's completions. -/
structure Connection where
  profile : Profile
  model : String
  url : String
  key : String
  deriving DecidableEq, Repr, Inhabited

/-- The first text that is there and not empty. -/
def firstFilled (texts : List (Option String)) : Option String :=
  (texts.filterMap id).find? fun text => text ≠ ""

def withoutTrailingSlashes (url : String) : String :=
  String.ofList (url.toList.reverse.dropWhile (· = '/')).reverse

/-- Whether a header can hold a text. -/
def isSendable (text : String) : Bool := text.toList.all fun c => c.toNat < 0x80

/-- A connection needs a key, given or from the environment. -/
def connect (profile : Profile) (options : ConnectionOptions) (environment : Environment) :
    Except ConfigError Connection :=
  match firstFilled [options.key, Entries.get? environment profile.keyVariable] with
  | none => .error (.noKey profile)
  | some key =>
    if !isSendable key then .error .unsendableKey
    else
      let root := firstFilled [options.baseUrl, Entries.get? environment profile.baseUrlVariable]
      .ok
        { profile := profile
          model := (firstFilled [options.model]).getD profile.defaultModel
          url := withoutTrailingSlashes (root.getD profile.baseUrl) ++ "/chat/completions"
          key := key }

end ComponentGate.Chat
