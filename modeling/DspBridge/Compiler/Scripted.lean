import DspBridge.Compiler.Basic

/-!
# Scripted backends

A backend that plays a list of steps, one for each unit that it is asked to translate. After a
fault it is poisoned and faults again until it is reset.
-/

namespace DspBridge

/-- What a scripted backend does with a unit. -/
inductive Step where
  /-- Store the artifacts that are given, and no other files. -/
  | succeed (translated descriptor : Option String)
  /-- Refuse the unit and leave a diagnostic. -/
  | refuse (message : String)
  /-- Fault, with one text for the fault and one for the diagnostic left behind. -/
  | fault (raised reported : String)
  deriving DecidableEq, Repr

/-- The state of a scripted backend. -/
structure Script where
  steps : List Step
  version : String
  files : List (String × String)
  lastError : String
  poisoned : Bool
  resets : Nat
  deriving DecidableEq, Repr

namespace Script

/-- A backend that has not been used yet. -/
def new (steps : List Step) (version : String) : Script := ⟨steps, version, [], "", false, 0⟩

/-- Play the next step. -/
def generate (name : String) (script : Script) : Except Fault Bool × Script :=
  if script.poisoned then (.error ⟨"compiler state corrupted"⟩, script)
  else
    match script.steps with
    | [] => (.error ⟨"no scripted step"⟩, script)
    | .succeed translated descriptor :: steps =>
        let files :=
          (translated.toList.map fun text => (moduleName name, text)) ++
            descriptor.toList.map fun text => (descriptorName name, text)
        (.ok true, { script with steps, files })
    | .refuse message :: steps => (.ok false, { script with steps, lastError := message })
    | .fault raised reported :: steps =>
        (.error ⟨raised⟩, { script with steps, lastError := reported, poisoned := true })

/-- The file that the last step stored under a path. -/
def read (path : String) (script : Script) : Except Fault String :=
  match script.files.lookup path with
  | some text => .ok text
  | none => .error ⟨s!"no such file: {path}"⟩

/-- A script as a backend. -/
def backend : Backend Script where
  generate name _ _ := fun script => pure (script.generate name)
  read path := fun script => pure (script.read path, script)
  lastError := fun script => pure (script.lastError, script)
  reset := fun script =>
    pure ((), { script with resets := script.resets + 1, poisoned := false, lastError := "" })
  version := fun script => pure (script.version, script)

end Script
end DspBridge
