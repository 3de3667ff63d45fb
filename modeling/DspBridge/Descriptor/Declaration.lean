import DspBridge.Descriptor.Reader

/-!
# Input declarations

The line of source text that declares an input event for a control. A control's label is its name
as people see it; the identifier is the label with every character that cannot stand in an
identifier replaced by an underscore, one for one.
-/

namespace DspBridge

/-- The characters of labels that identifiers cannot hold. -/
def isLabelSpecial (c : Char) : Bool :=
  c == ' ' || c == '(' || c == ')' || c == '\\' || c == '/' || c == '.' || c == '-'

/-- A label as an identifier. -/
def sanitizeLabel (label : String) : String :=
  String.ofList (label.toList.map fun c => if isLabelSpecial c then '_' else c)

/-- The numbers of a range as annotation fields. -/
def Descriptor.Range.annotation (range : Descriptor.Range) : String :=
  s!"min: {range.min.text}, max: {range.max.text}, init: {range.init.text}, step: {range.step.text}"

/-- The annotation fields of a switch. -/
def switchAnnotation : String := "text: \"off|on\", boolean"

/-- The declaration of an input event with a label and further annotation fields. -/
def declarationLine (label annotation : String) : String :=
  s!"input event float32 {sanitizeLabel label} [[ name: \"" ++ label ++ "\", " ++ annotation ++ " ]];"

/-- The declaration of a node, if it is a control. -/
def Descriptor.Node.declaration? : Descriptor.Node → Option String
  | .range _ label limits => some (declarationLine label limits.annotation)
  | .switch _ label => some (declarationLine label switchAnnotation)
  | .group .. | .other _ => none

/-- The declarations of the controls of a descriptor, in document order. -/
def Descriptor.declarations (descriptor : Descriptor) : List String :=
  descriptor.leaves.filterMap Descriptor.Node.declaration?

/-- The declarations of the controls of a descriptor text. -/
def declarationsOf (text : String) : Except Descriptor.Error (List String) :=
  Descriptor.declarations <$> Descriptor.parse text

/-- The declarations of a descriptor text, with an action for each line as it is made. An action
is taken only when the whole text is a descriptor. -/
def forDeclarations {m : Type → Type} [Monad m] (text : String) (action : String → m Unit) :
    m (Except Descriptor.Error (List String)) := do
  match declarationsOf text with
  | .error error => pure (.error error)
  | .ok lines =>
      for line in lines do action line
      pure (.ok lines)

end DspBridge
