import ControlSchema.Registry

/-!
# Limits of controls

What a camera says about the values that its controls can take, by number.
-/

namespace ControlSchema

open Number

structure ControlInfo where
  min : ControlValue
  max : ControlValue
  default : ControlValue
  values : List ControlValue

namespace ControlInfo

/-- Values between parentheses; a lone one has a comma behind it. -/
def shownValues : List ControlValue → String
  | [v] => "(" ++ v.shown ++ ",)"
  | values => "(" ++ ", ".intercalate (values.map ControlValue.shown) ++ ")"

def shown (i : ControlInfo) : String :=
  "ControlInfo(min=" ++ i.min.shown ++ ", max=" ++ i.max.shown ++ ", default=" ++ i.default.shown
    ++ ", values=" ++ shownValues i.values ++ ")"

end ControlInfo

/-- The limits of a camera's controls. -/
structure ControlInfoMap where
  infos : Table Int ControlInfo

namespace ControlInfoMap

def ofPairs (pairs : List (Int × ControlInfo)) : ControlInfoMap := ⟨Table.ofPairs pairs⟩

/-- The limits of a control, which must be there. -/
def at? (m : ControlInfoMap) (id : Int) : Except ControlNotFound ControlInfo :=
  match m.infos.get? id with
  | some info => .ok info
  | none => .error ⟨id⟩

def keys (m : ControlInfoMap) : List Int := m.infos.keys

variable {η : Type} [Dynamic η]

/-- What stands in front of the limits of a number: the identifier, if a registry knows it. -/
def label (registry : Option (Registry η)) (id : Int) : Except RegistryError String :=
  match registry with
  | none => .ok (intText id)
  | some r => do
    match ← r.lookup id with
    | some name => return r.identifiers.shown name
    | none => return intText id

def shownInfo (registry : Option (Registry η)) (item : Int × ControlInfo) :
    Except RegistryError String := do
  return (← label registry item.1) ++ ": " ++ item.2.shown

/-- The limits between braces. -/
def shown (m : ControlInfoMap) (registry : Option (Registry η)) : Except RegistryError String := do
  return "\x7b" ++ ", ".intercalate (← m.infos.mapM (shownInfo registry)) ++ "\x7d"

end ControlInfoMap

end ControlSchema
