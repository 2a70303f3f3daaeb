import ShadowGate.Settings.Value

/-!
# Settings in the environment

An environment variable whose name starts with `PAGI_SHADOW__`, in any case, assigns to the setting
that the rest of its name spells in lower case; two underscores divide a name into parts. Its value
is a truth value, a whole number or a double if it reads as one, and a text otherwise.
-/

namespace ShadowGate

/-- Environment variables: names and values. -/
abbrev Environment : Type := List (String × String)

namespace Environment

/-- The value of a variable. -/
def get? (env : Environment) (name : String) : Option String := env.lookup name

/-- What the value of a variable reads as. -/
def reading (s : String) : Setting :=
  let word := Text.lower s
  if word = "true" then .bool true
  else if word = "false" then .bool false
  else
    match Number.int64? s, Number.float? s with
    | some n, _ => .int n
    | none, some x => .float x
    | none, none => .text s

/-- How the names of variables that assign to settings start, in lower case. -/
def mark : List Char := "pagi_shadow__".toList

/-- Points in place of double underscores. -/
def divide : List Char → List Char
  | [] => []
  | '_' :: '_' :: rest => '.' :: divide rest
  | c :: rest => c :: divide rest

/-- The setting that a variable assigns to. -/
def settingName? (name : String) : Option String :=
  let cs := (Text.lower name).toList
  if mark.isPrefixOf cs then some (String.ofList (divide (cs.drop mark.length))) else none

/-- Assignments with those of the environment laid over them. -/
def overlay (env : Environment) (a : Assignments) : Assignments :=
  env.foldl (fun a v =>
    match settingName? v.1 with
    | some name => a.assign name (reading v.2)
    | none => a) a

end Environment

end ShadowGate
