/-!
# Options

The command line names the files that are read and written.  Every option may be given once, with
its value behind it or in the same argument.

Main results:

- Theorem `named_of_parse`: arguments that are accepted name no file by the empty text.
-/

namespace NodeApi
namespace CommandLine

/-- What is asked for. -/
structure Options where
  rpcDefinitions : Option String
  metadata : Option String
  output : Option String
  compact : Bool
deriving DecidableEq

/-- Nothing is asked for: the document of an empty node, on the standard output. -/
def Options.default : Options :=
  ⟨none, none, none, false⟩

/-- The options there are. -/
inductive Switch where
  | rpcDefinitions
  | metadata
  | output
  | compact
deriving DecidableEq

/-- How the arguments are misused. -/
inductive Misuse where
  | unknownArgument (argument : String)
  | missingValue (switch : Switch)
  | unwantedValue (switch : Switch)
  | repeated (switch : Switch)
deriving DecidableEq

/-- The name of an option. -/
def Switch.name : Switch → String
  | rpcDefinitions => "--rpc-definitions"
  | metadata => "--metadata"
  | output => "--output"
  | compact => "--compact"

/-- The wording of a misuse. -/
def Misuse.message : Misuse → String
  | unknownArgument argument => "unexpected argument `" ++ argument ++ "`"
  | missingValue switch => "a value is required for `" ++ switch.name ++ "`"
  | unwantedValue switch => "no value is taken by `" ++ switch.name ++ "`"
  | repeated switch => "`" ++ switch.name ++ "` is given twice"

/-- The option of a name. -/
def Switch.ofName? (name : String) : Option Switch :=
  [rpcDefinitions, metadata, output, compact].find? (·.name = name)

/-- The option that an argument names, and the value in the same argument. -/
def Switch.ofArgument? (argument : String) : Option (Switch × Option String) :=
  match argument.toList with
  | '-' :: '-' :: long =>
    let name := String.ofList ('-' :: '-' :: long.takeWhile (· ≠ '='))
    let value := match long.dropWhile (· ≠ '=') with
      | [] => none
      | _ :: value => some (String.ofList value)
    (ofName? name).map (·, value)
  | ['-', 'o'] => some (output, none)
  | '-' :: 'o' :: '=' :: value => some (output, some (String.ofList value))
  | '-' :: 'o' :: value => some (output, some (String.ofList value))
  | _ => none

/-- Whether an argument can be the value of the option before it. -/
def isValue (argument : String) : Bool :=
  argument = "-" || argument.toList.head? != some '-'

/-- The value of an option that names a file. -/
def setPath (switch : Switch) (old : Option String) (path : String) :
    Except Misuse (Option String) :=
  if path = "" then .error (.missingValue switch)
  else if old.isSome then .error (.repeated switch)
  else .ok (some path)

/-- Gives an option its value. -/
def Options.set (o : Options) (switch : Switch) (value : String) : Except Misuse Options :=
  match switch with
  | .rpcDefinitions => do
    return { o with rpcDefinitions := ← setPath switch o.rpcDefinitions value }
  | .metadata => do return { o with metadata := ← setPath switch o.metadata value }
  | .output => do return { o with output := ← setPath switch o.output value }
  | .compact => .error (.unwantedValue switch)

/-- Reads arguments on top of what has been asked for so far. -/
def parseFrom (o : Options) : List String → Except Misuse Options
  | [] => .ok o
  | "--" :: [] => .ok o
  | "--" :: argument :: _ => .error (.unknownArgument argument)
  | argument :: rest =>
    match Switch.ofArgument? argument with
    | none => .error (.unknownArgument argument)
    | some (.compact, none) =>
      if o.compact then .error (.repeated .compact) else parseFrom { o with compact := true } rest
    | some (switch, some value) => do parseFrom (← o.set switch value) rest
    | some (switch, none) =>
      match rest with
      | [] => .error (.missingValue switch)
      | value :: rest =>
        if isValue value then do parseFrom (← o.set switch value) rest
        else .error (.missingValue switch)

/-- Reads the arguments of the program. -/
def parse (arguments : List String) : Except Misuse Options :=
  parseFrom .default arguments

/-! ## Accepted arguments -/

/-- Every file that is asked for has a name. -/
structure Options.Named (o : Options) : Prop where
  rpcDefinitions : o.rpcDefinitions ≠ some ""
  metadata : o.metadata ≠ some ""
  output : o.output ≠ some ""

theorem setPath_ne_empty {switch : Switch} {old new : Option String} {path : String}
    (h : setPath switch old path = .ok new) : new ≠ some "" := by
  unfold setPath at h
  split at h
  · cases h
  · split at h
    · cases h
    · cases h
      simpa using ‹¬path = ""›

theorem Options.Named.set {o o' : Options} {switch : Switch} {value : String} (ho : o.Named)
    (h : o.set switch value = .ok o') : o'.Named := by
  have of_path {old : Option String} {put : Option String → Options}
      (h : put <$> setPath switch old value = .ok o') : ∃ new, new ≠ some "" ∧ put new = o' := by
    cases hpath : setPath switch old value with
    | error misuse => rw [hpath] at h; cases h
    | ok new => rw [hpath] at h; cases h; exact ⟨new, setPath_ne_empty hpath, rfl⟩
  cases switch with
  | compact => cases h
  | rpcDefinitions =>
    obtain ⟨new, hnew, rfl⟩ := of_path h
    exact { ho with rpcDefinitions := hnew }
  | metadata =>
    obtain ⟨new, hnew, rfl⟩ := of_path h
    exact { ho with metadata := hnew }
  | output =>
    obtain ⟨new, hnew, rfl⟩ := of_path h
    exact { ho with output := hnew }

theorem Options.Named.parseFrom {o o' : Options} {arguments : List String} (ho : o.Named)
    (h : parseFrom o arguments = .ok o') : o'.Named := by
  have of_set {o : Options} {switch : Switch} {value : String} {rest : List String} (ho : o.Named)
      (h : (do CommandLine.parseFrom (← o.set switch value) rest) = .ok o') :
      ∃ next : Options, next.Named ∧ CommandLine.parseFrom next rest = .ok o' := by
    cases hset : o.set switch value with
    | error misuse => rw [hset] at h; cases h
    | ok next => rw [hset] at h; exact ⟨next, ho.set hset, h⟩
  fun_induction CommandLine.parseFrom o arguments with
  | case1 => cases h; exact ho
  | case2 => cases h; exact ho
  | case3 => cases h
  | case4 => cases h
  | case5 => cases h
  | case6 o _ _ _ _ _ _ ih => exact ih ⟨ho.rpcDefinitions, ho.metadata, ho.output⟩ h
  -- The value stands in the argument itself, or is the next one.
  | case7 o _ _ _ _ _ _ _ ih =>
    obtain ⟨next, hnext, h⟩ := of_set ho h
    exact ih next hnext h
  | case8 => cases h
  | case9 o _ _ _ _ _ _ _ _ _ ih =>
    obtain ⟨next, hnext, h⟩ := of_set ho h
    exact ih next hnext h
  | case10 => cases h

/-- Arguments that are accepted name no file by the empty text. -/
theorem named_of_parse {arguments : List String} {o : Options} (h : parse arguments = .ok o) :
    o.Named := by
  have hdefault : Options.default.Named := by constructor <;> simp [Options.default]
  exact hdefault.parseFrom h

end CommandLine
end NodeApi
