import Demarcation.Fault

namespace Demarcation

inductive Warning where
  | strategyFailed (strategy : String) (fault : Fault)
  | matchesNothing (boundary : String)
  | skippedFile (path : String) (fault : Fault)
  | unreadableFile (path : String) (fault : Fault)
  | unreadableSettings (path : String) (fault : Fault)
  | unwritableSettings (path : String) (fault : Fault)
  | sectionNotTable (path : String)
  | unknownSetting (key path : String)
deriving DecidableEq, Repr

def Warning.message (nameOf : Fault → String) : Warning → String
  | .strategyFailed strategy fault => s!"Clustering strategy '{strategy}' failed: {nameOf fault}"
  | .matchesNothing boundary => s!"User boundary '{boundary}' matches no analyzed files"
  | .skippedFile path fault => s!"Skipping {path}: {nameOf fault}"
  | .unreadableFile path fault => s!"Could not read {path}: {nameOf fault}"
  | .unreadableSettings path fault => s!"Ignoring unreadable config file {path}: {nameOf fault}"
  | .unwritableSettings path fault => s!"Could not write {path}: {nameOf fault}"
  | .sectionNotTable path => s!"[discovery] in {path} is not a table; ignoring it"
  | .unknownSetting key path => s!"Unknown discovery setting '{key}' in {path}"

end Demarcation
