import Demarcation.Text.Quoted

namespace Demarcation

open Text

inductive Fault where
  | syntaxError
  | nullCharacter
  | badToml
  | badJson
  /-- Well-formed JSON beyond the limits of its reader. -/
  | tooDeep
  | tooManyDigits (limit count : Nat)
  | loneSurrogate
  | badEncoding
  | fileMissing
  | isDirectory
  | notDirectory
  | fileExists
  | rootMissing (path : String)
  | rootNotDirectory (path : String)
  | boundaryFileUnreadable
  | boundaryFileWithoutModules (path : String)
  | moduleNotTable (path name : String)
  | moduleWithoutPaths (path name : String)
  | moduleDescriptionNotText (path name : String)
  | unknownKind (name : String)
  | unknownOperation (name : String)
  | unknownOverlap (name : String)
  | unknownRecommendation (name : String)
  | unknownDifficulty (name : String)
  | unknownSetting (key : String)
  | unknownSampling (shown : String)
  | tooFewFiles
  | tooFewDependencyNodes
  | confidenceOutOfRange
  | badInteger (text : String)
  | badNumber (text : String)
  | nanToInteger
  | infinityToInteger
  | missingKey (key : String)
  /-- A value was asked for what only a table has, or only a text. -/
  | notTable
  | wrongType
  | noSuchPosition
  | divisionByZero
  | badPairs (position length : Nat)
  | strategyBroke
deriving DecidableEq, Repr, Inhabited

def Fault.message? : Fault → Option String
  | .rootMissing path => some s!"Project root '{path}' does not exist."
  | .rootNotDirectory path => some s!"Project root '{path}' is not a directory."
  | .boundaryFileWithoutModules path => some s!"{path}: expected a non-empty 'modules' table"
  | .moduleNotTable path name => some s!"{path}: module '{name}' must be a table"
  | .moduleWithoutPaths path name => some s!"{path}: module '{name}' needs a non-empty list of 'paths'"
  | .moduleDescriptionNotText path name => some s!"{path}: description of module '{name}' must be a string"
  | .unknownKind name => some s!"'{name}' is not a valid NodeKind"
  | .unknownOperation name => some s!"Unknown database operation '{name}'"
  | .unknownOverlap name => some s!"Unknown overlap type '{name}'"
  | .unknownRecommendation name => some s!"Unknown recommendation type '{name}'"
  | .unknownDifficulty name => some s!"Unknown difficulty '{name}'"
  | .unknownSetting key => some s!"Unknown discovery setting '{key}'"
  | .unknownSampling shown =>
    some s!"Unknown sampling mode '{shown}'. Choose one of: none, stride, importance"
  | .tooFewFiles => some "max_files must be at least 1"
  | .tooFewDependencyNodes => some "max_dependency_nodes must be at least 2"
  | .confidenceOutOfRange => some "min_confidence must be between 0 and 1"
  | .badInteger text => some s!"invalid literal for int() with base 10: {quoted text}"
  | .badNumber text => some s!"could not convert string to float: {quoted text}"
  | .tooManyDigits limit count =>
    some (s!"Exceeds the limit ({limit} digits) for integer string conversion: " ++
      s!"value has {count} digits; use sys.set_int_max_str_digits() to increase the limit")
  | .nullCharacter => some "source code string cannot contain null bytes"
  | .nanToInteger => some "cannot convert float NaN to integer"
  | .missingKey key => some key
  | .badPairs position length =>
    some s!"dictionary update sequence element #{position} has length {length}; 2 is required"
  | _ => none

section Results

variable {α β : Type} {x : Except Fault α} {f : α → Except Fault β}

theorem ok_bind (a : α) (f : α → Except Fault β) : (Except.ok a >>= f) = f a := rfl

theorem error_bind (fault : Fault) (f : α → Except Fault β) : (Except.error fault >>= f) = .error fault := rfl

theorem exists_of_bind_eq_ok {b : β} (h : x >>= f = .ok b) : ∃ a, x = .ok a ∧ f a = .ok b := by
  cases x with
  | error e => cases h
  | ok a => exact ⟨a, rfl, h⟩

theorem eq_ok_of_toOption {a : α} (h : x.toOption = some a) : x = .ok a := by
  cases x with
  | error fault => cases h
  | ok b => exact congrArg Except.ok (Option.some_inj.1 h)

end Results

end Demarcation
