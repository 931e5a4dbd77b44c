import Bindery.Unicode.Word
import Bindery.Text.Basic

set_option autoImplicit false

/-! # Variables in settings

In some settings, `$NAME` and `${NAME}` stand for the value of an environment variable, and
`${NAME:-text}` stands for the text where the variable is not set. Two dollar signs stand for one.
A brace that is not closed is text. -/

namespace Bindery

/-- The variables that are set, with their values. -/
abbrev Environment := List (Text × Text)

/-- The value of a variable. -/
def Environment.get? (environment : Environment) (name : Text) : Option Text :=
  (environment.find? (·.1 = name)).map (·.2)

/-- The value of a variable, or its name if it is not set. -/
def Environment.require (environment : Environment) (name : Text) : Except Text Text :=
  match environment.get? name with
  | some value => .ok value
  | none => .error name

namespace Expansion

/-- The characters of a variable name that stands without braces. -/
def isNameChar (c : Char) : Bool := isAlphanumeric c || c == '_'

/-- The name and, behind `:-`, the text for when it is not set. The name is not empty, so `:-` at
the front belongs to it. -/
def splitDefault (inside : Text) : Text × Option Text :=
  match Text.cut? [':', '-'] inside with
  | some (c :: name, default) => (c :: name, some default)
  | _ => (inside, none)

/-- The value of what stands between braces, or the name of the variable that is not set. -/
def valueOf (environment : Environment) (inside : Text) : Except Text Text :=
  match splitDefault inside with
  | (name, none) => environment.require name
  | (name, some default) => .ok ((environment.get? name).getD default)

/-- Where the reader of a setting stands. -/
inductive Place where
  /-- Between references to variables. -/
  | outside
  /-- Behind a dollar sign. -/
  | behindDollar
  /-- In a name without braces; what was read of it, last character first. -/
  | inName (read : Text)
  /-- Between braces; what was read there, last character first. -/
  | inBraces (read : Text)

/-- Expands what follows a place. -/
def expandFrom (environment : Environment) : Place → Text → Except Text Text
  | .outside, [] => .ok []
  | .behindDollar, [] => .ok ['$']
  | .inName read, [] => environment.require read.reverse
  | .inBraces _, [] => .ok []
  | .outside, c :: rest =>
    if c = '$' then expandFrom environment .behindDollar rest
    else (expandFrom environment .outside rest).map (c :: ·)
  | .behindDollar, c :: rest =>
    if c = '$' then (expandFrom environment .outside rest).map ('$' :: ·)
    else if c = '\x7b' then
      if '\x7d' ∈ rest then expandFrom environment (.inBraces []) rest
      else (expandFrom environment .outside rest).map ('$' :: '\x7b' :: ·)
    else if isNameChar c then expandFrom environment (.inName [c]) rest
    else (expandFrom environment .outside rest).map ('$' :: c :: ·)
  | .inName read, c :: rest =>
    if isNameChar c then expandFrom environment (.inName (c :: read)) rest
    else
      match environment.require read.reverse with
      | .error name => .error name
      | .ok value =>
        (if c = '$' then expandFrom environment .behindDollar rest
        else (expandFrom environment .outside rest).map (c :: ·)).map (value ++ ·)
  | .inBraces read, c :: rest =>
    if c = '\x7d' then
      match valueOf environment read.reverse with
      | .error name => .error name
      | .ok value => (expandFrom environment .outside rest).map (value ++ ·)
    else expandFrom environment (.inBraces (c :: read)) rest

end Expansion

/-- A setting with its variables replaced by their values. The first variable that is not set and
has no default is the error. -/
def expand (environment : Environment) (setting : Text) : Except Text Text :=
  Expansion.expandFrom environment .outside setting

end Bindery
