import ShaderConformance.Probe.Readback

/-!
# Expected values

The value that a probe expects of a texel: components of one type.
-/

namespace ShaderConformance

/-- An expected value. -/
inductive ProbeValue where
  | u64 (values : List UInt64)
  | i64 (values : List Int64)
  | f64 (values : List Double)
  | u32 (values : List UInt32)
  | i32 (values : List Int32)
  | f32 (values : List Single)
deriving DecidableEq, Repr

/-- A list as it is written: its items between brackets, with commas. -/
def listText (items : List String) : String := "[" ++ ", ".intercalate items ++ "]"

namespace ProbeValue

/-- The number of components. -/
def length : ProbeValue → Nat
  | u64 v => v.length
  | i64 v => v.length
  | f64 v => v.length
  | u32 v => v.length
  | i32 v => v.length
  | f32 v => v.length

/-- The bytes that a component takes. -/
def componentSize : ProbeValue → Nat
  | u64 _ | i64 _ | f64 _ => 8
  | u32 _ | i32 _ | f32 _ => 4

/-- The bytes that the components take together. -/
def byteSize (v : ProbeValue) : Nat := v.length * v.componentSize

/-- The text of a value. -/
def text : ProbeValue → String
  | u64 v => listText (v.map toString)
  | i64 v => listText (v.map toString)
  | f64 v => listText (v.map fun x => String.ofList x.render)
  | u32 v => listText (v.map toString)
  | i32 v => listText (v.map toString)
  | f32 v => listText (v.map fun x => String.ofList x.render)

instance : ToString ProbeValue := ⟨text⟩

/-- Reads the first `count` components, all of which must be there. -/
def components? {T : Type} (read? : Nat → Option T) (count : Nat) : Option (List T) :=
  (List.range count).mapM read?

/-- Decodes a texel into as many components of the same type as a value has. -/
def decodeLike? (expected : ProbeValue) (format : Format) (texel : List UInt8) :
    Option ProbeValue :=
  let count := expected.length
  match expected with
  | u64 _ => (components? (componentLong? texel) count).map u64
  | i64 _ => (components? (componentLong? texel) count).map fun v => i64 (v.map (·.toInt64))
  | f64 _ => (components? (componentLong? texel) count).map fun v => f64 (v.map (⟨·⟩))
  | u32 _ => (components? (format.componentInteger? texel) count).map u32
  | i32 _ => (components? (format.componentInteger? texel) count).map fun v =>
      i32 (v.map (·.toInt32))
  | f32 _ => (components? (format.componentNumber? texel) count).map f32

/-- Whether all pairs of components are near each other. -/
def allNear {T : Type} (near : T → T → Bool) (got expected : List T) : Bool :=
  (got.zip expected).all fun (g, e) => near g e

/-- Whether two integers differ by at most a number of steps. -/
def intNear (steps : UInt32) (a b : Int) : Bool := (a - b).natAbs ≤ steps.toNat

/-- Whether a decoded value matches an expected one within a tolerance: floating-point
    components in representable steps, integers in steps of one. -/
def matchesWithin (steps : UInt32) : (got expected : ProbeValue) → Bool
  | u64 g, u64 e => allNear (fun a b => intNear steps a.toNat b.toNat) g e
  | i64 g, i64 e => allNear (fun a b => intNear steps a.toInt b.toInt) g e
  | f64 g, f64 e => allNear (Double.within steps) g e
  | u32 g, u32 e => allNear (fun a b => intNear steps a.toNat b.toNat) g e
  | i32 g, i32 e => allNear (fun a b => intNear steps a.toInt b.toInt) g e
  | f32 g, f32 e => allNear (Single.within steps) g e
  | _, _ => false

/-- Whether a value can be read from one texel of some contents. -/
def fits (v : ProbeValue) (r : Readback) : Bool :=
  if v.componentSize = 8 ∨ r.format = .unknown then v.byteSize ≤ r.texelSize
  else v.length ≤ r.format.componentCount.toNat

end ProbeValue

end ShaderConformance
