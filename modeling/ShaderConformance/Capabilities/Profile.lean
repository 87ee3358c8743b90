import ShaderConformance.Capabilities.Basic
import ShaderConformance.Qualifier.Basic
import ShaderConformance.Yaml.Mapping

/-!
# Capability profiles

A profile overrides what a runner reports, so that a run can pretend to be on a more
limited runner.  It is a YAML mapping; what it does not name keeps the runner's value.
-/

namespace ShaderConformance

/-- Overrides for the capabilities of a runner. -/
structure CapabilityProfile where
  runner : Option String
  tags : Option (List String)
  minimumModel : Option ShaderModel
  maximumModel : Option ShaderModel
  features : Option (List Feature)
  /-- The formats that can be loaded through an unordered access view. -/
  uavLoadFormats : Option (List Format)
  sourceFormats : Option (List SourceFormat)
deriving DecidableEq, Repr

/-- Why a profile cannot be applied. -/
inductive ProfileError where
  | unknownTag (tag : String)
  /-- No model is left. -/
  | emptyModelRange (minimum maximum : ShaderModel)
deriving DecidableEq, Repr

def ProfileError.message : ProfileError → String
  | unknownTag tag => s!"unknown tag '{tag}'"
  | emptyModelRange minimum maximum => s!"empty shader model range {minimum} - {maximum}"

namespace CapabilityProfile

/-- The profile that overrides nothing. -/
def empty : CapabilityProfile := ⟨none, none, none, none, none, none, none⟩

/-! ## Reading -/

/-- The value of a key that is absent unless it is a text that `read?` accepts. -/
def scalarField? {T : Type} (read? : Text → Option T) : Yaml.Value → Option (Option T)
  | .scalar s => s.isNull?.bind fun absent => if absent then some none else some <$> read? s.text
  | .list _ => none

/-- The value of a key that is absent unless it is a list of texts that `read?` accepts.
    A tag in front of nothing says that the list is empty. -/
def listField? {T : Type} (read? : Text → Option T) : Yaml.Value → Option (Option (List T))
  | .scalar s =>
    s.isNull?.bind fun absent =>
      if absent then some none else if s.plain && s.text.isEmpty then some (some []) else none
  | .list items => some <$> items.mapM read?

/-- The result of a reader of names, if it has one. -/
def accepted? {E T : Type} (read : String → Except E T) (s : Text) : Option T :=
  (read (.ofList s)).toOption

/-- The model with a name. -/
def model? (s : Text) : Option ShaderModel := (ShaderModel.parse s).toOption

/-- Takes the value of a key over. -/
def withField? (p : CapabilityProfile) (key : String) (v : Yaml.Value) :
    Option CapabilityProfile :=
  match key with
  | "runner" => (scalarField? (some ∘ String.ofList) v).map ({ p with runner := · })
  | "tags" => (listField? (some ∘ String.ofList) v).map ({ p with tags := · })
  | "minimum_model" => (scalarField? model? v).map ({ p with minimumModel := · })
  | "maximum_model" => (scalarField? model? v).map ({ p with maximumModel := · })
  | "caps" => (listField? (accepted? Feature.parse) v).map ({ p with features := · })
  | "uav_load_formats" =>
    (listField? (accepted? Format.parse) v).map ({ p with uavLoadFormats := · })
  | "source_formats" =>
    (listField? (accepted? SourceFormat.parse) v).map ({ p with sourceFormats := · })
  | _ => none

/-- The profile of a mapping.  Every key is known, and none is given twice. -/
def ofMapping? (fields : List (Text × Yaml.Value)) : Option CapabilityProfile :=
  if (fields.map (·.1)).Nodup then
    fields.foldlM (fun p (key, v) => p.withField? (.ofList key) v) empty
  else none

/-- The profile that a text holds. -/
def read? (s : Text) : Option CapabilityProfile := (Yaml.mapping? s).bind ofMapping?

/-! ## Applying -/

/-- A profile whose range of models is overridden in turn. -/
def within (p : CapabilityProfile) (minimum? maximum? : Option ShaderModel) :
    CapabilityProfile :=
  { p with
    minimumModel := minimum? <|> p.minimumModel
    maximumModel := maximum? <|> p.maximumModel }

/-- The first tag of a profile that no runner knows. -/
def unknownTag? (p : CapabilityProfile) : Option String :=
  (p.tags.getD []).find? fun tag => !knownTags.contains tag

/-- The capabilities with the overrides of a profile. -/
def override (p : CapabilityProfile) (c : Capabilities) : Capabilities where
  runner := p.runner.getD c.runner
  compiler := c.compiler
  tags := p.tags.getD c.tags
  minimumModel := p.minimumModel.getD c.minimumModel
  maximumModel := p.maximumModel.getD c.maximumModel
  has := p.features.elim c.has fun features f => features.contains f
  uavLoad := p.uavLoadFormats.elim c.uavLoad fun formats f => formats.contains f
  sourceFormats := p.sourceFormats.getD c.sourceFormats

/-- Overrides the capabilities of a runner.  The tags have to be known, and a model has
    to be left. -/
def apply (p : CapabilityProfile) (c : Capabilities) : Except ProfileError Capabilities :=
  match p.unknownTag? with
  | some tag => .error (.unknownTag tag)
  | none =>
    let c := p.override c
    if c.maximumModel < c.minimumModel then .error (.emptyModelRange c.minimumModel c.maximumModel)
    else .ok c

end CapabilityProfile

end ShaderConformance
