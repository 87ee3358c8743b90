import ShaderConformance.Qualifier.Reading
import ShaderConformance.Shader.Basic

/-!
# Headers of shader blocks

After the stage, the header of a shader block may say at which models compiling is
expected to fail (`fail`), to be impossible (`notimpl`) or to give a wrong result
(`todo`), each with a qualifier, and which format the source has.  Of several
expectations for a model the last one counts.
-/

namespace ShaderConformance

open Text

/-- The header of a shader block. -/
structure ShaderHeader where
  type : ShaderType
  /-- The models whose result is expected to be wrong. -/
  todo : ModelMask
  /-- The expected outcome for each model. -/
  expected : ShaderModel → CompileStatus
  format : SourceFormat

namespace ShaderHeader

/-- A header without any item. -/
def plain (type : ShaderType) : ShaderHeader where
  type := type
  todo := .empty
  expected := fun _ => .ok
  format := .hlsl

/-- Expects an outcome at the models of a set. -/
def expect (h : ShaderHeader) (models : ModelMask) (status : CompileStatus) : ShaderHeader :=
  { h with expected := fun m => if models.contains m then status else h.expected m }

/-- One item of a header. -/
inductive Item where
  | todo (q : Qualifier)
  | status (q : Qualifier) (s : CompileStatus)
  | format (f : SourceFormat)

/-- What an item adds to a header. -/
def apply (h : ShaderHeader) : Item → ShaderHeader
  | .todo q => { h with todo := h.todo ||| q.gated }
  | .status q s => h.expect q.gated s
  | .format f => { h with format := f }

/-- The items that carry a qualifier, under their keywords. -/
def qualifiedItems : List (String × (Qualifier → Item)) :=
  [("todo", .todo), ("fail", (.status · .fail)), ("notimpl", (.status · .notImplemented))]

/-- Reads one item. -/
def item (context : QualifierContext) (line : Text) : Except Fault (Item × Text) :=
  match firstQualified context line qualifiedItems with
  | .error fault => .error fault
  | .ok (some (make, q, rest)) => .ok (make q, rest)
  | .ok none =>
    match tableKeyword? line SourceFormat.table with
    | some (f, rest) => .ok (.format f, rest)
    | none => .error (.unknown "shader header qualifier" (trim line))

/-- What stands behind an item of a header is shorter than the line. -/
theorem length_item {context : QualifierContext} {line rest : Text} {i : Item}
    (h : item context line = .ok (i, rest)) : rest.length < line.length := by
  unfold item at h
  split at h
  · simp at h
  · rename_i hq
    simp only [Except.ok.injEq, Prod.mk.injEq] at h
    obtain ⟨-, rfl⟩ := h
    exact length_firstQualified hq (by decide)
  · split at h
    · rename_i ht
      simp only [Except.ok.injEq, Prod.mk.injEq] at h
      obtain ⟨-, rfl⟩ := h
      exact length_tableKeyword? ht (by decide)
    · simp at h

/-- Reads items up to the end of the header. -/
def items (context : QualifierContext) (line : Text) : Except Fault (List Item) :=
  if line.isEmpty then .ok []
  else
    match _h : item context line with
    | .error fault => .error fault
    | .ok (i, rest) => (items context rest).map (i :: ·)
termination_by line.length
decreasing_by exact length_item _h

/-- Reads what follows the stage in the header of a shader block. -/
def read (context : QualifierContext) (type : ShaderType) (text : Text) :
    Except Fault ShaderHeader :=
  (items context (trimStart text)).map fun list => list.foldl apply (plain type)

end ShaderHeader

end ShaderConformance
