import Conveyor.Error

/-!
Resources of the steps of a pipeline (`ResourcesSpec`, settled by `resolve`). A step may ask for
parallelism and for a size, or leave either open; what it leaves open is taken from the defaults of the
pipeline, and is one if these leave it open too. The two are settled independently. A request for
nothing at all is not allowed.
-/

namespace Conveyor

/-- What a step asks for, and what a pipeline provides by default. -/
structure ResourcesSpec where
  parallelism? : Option UInt32 := none
  size? : Option UInt32 := none
  deriving DecidableEq, Inhabited, Repr

/-- What a step gets. -/
structure EffectiveResources where
  parallelism : UInt32
  size : UInt32
  deriving DecidableEq, Inhabited, Repr

namespace ResourcesSpec

/-- The request with everything it leaves open taken from defaults. -/
def withDefaults (spec : ResourcesSpec) (defaults? : Option ResourcesSpec) : ResourcesSpec :=
  let defaults := defaults?.getD {}
  { parallelism? := spec.parallelism?.or defaults.parallelism?
    size? := spec.size?.or defaults.size? }

/-- Refuses requests for nothing. -/
def validate (spec : ResourcesSpec) : Except ConfigurationError Unit :=
  if spec.parallelism? = some 0 then .error (.invalidField "parallelism" "must be positive")
  else if spec.size? = some 0 then .error (.invalidField "size" "must be positive")
  else .ok ()

instance : ToDocument ResourcesSpec := ⟨fun spec =>
  .ofFields [
    ("parallelism", spec.parallelism?.map fun value => .int value.toNat),
    ("size", spec.size?.map fun value => .int value.toNat)]⟩

/-- Reads a request from the fields of an object. -/
def ofObject (entries : List (String × Json)) : Decoding.Result ResourcesSpec := do
  let parallelism? ←
    Decoding.field? entries "parallelism" (Decoding.optional Decoding.uint32)
  let size? ← Decoding.field? entries "size" (Decoding.optional Decoding.uint32)
  return { parallelism? := parallelism?.join, size? := size?.join }

/-- Reads a request from the array of its fields. -/
def ofArray (items : List Json) : Decoding.Result ResourcesSpec := do
  let parallelism? ← Decoding.itemOr none items 0 (Decoding.optional Decoding.uint32)
  let size? ← Decoding.itemOr none items 1 (Decoding.optional Decoding.uint32)
  Decoding.noMoreThan 2 items
  return { parallelism?, size? }

instance : OfDocument ResourcesSpec := ⟨Decoding.shaped "ResourcesSpec" ofObject ofArray⟩

end ResourcesSpec

namespace EffectiveResources

/-- What a step gets for what nobody asked for. -/
def fallback : UInt32 := 1

/-- What a step gets if nobody asked for anything. -/
def ofNothing : EffectiveResources :=
  ⟨fallback, fallback⟩

/-- What a step gets for its own request and the defaults of its pipeline. -/
def resolve (step? defaults? : Option ResourcesSpec) : EffectiveResources :=
  let merged := (step?.getD {}).withDefaults defaults?
  ⟨merged.parallelism?.getD fallback, merged.size?.getD fallback⟩

instance : ToDocument EffectiveResources := ⟨fun resources =>
  .object [("parallelism", .int resources.parallelism.toNat), ("size", .int resources.size.toNat)]⟩

/-- Reads resources from the fields of an object. -/
def ofObject (entries : List (String × Json)) : Decoding.Result EffectiveResources := do
  let parallelism ← Decoding.field? entries "parallelism" Decoding.uint32
  let size ← Decoding.field? entries "size" Decoding.uint32
  return ⟨← Decoding.require "parallelism" parallelism, ← Decoding.require "size" size⟩

/-- Reads resources from the array of their fields. -/
def ofArray (items : List Json) : Decoding.Result EffectiveResources := do
  let shape := "struct EffectiveResources with 2 elements"
  let parallelism ← Decoding.item items 0 shape Decoding.uint32
  let size ← Decoding.item items 1 shape Decoding.uint32
  Decoding.noMoreThan 2 items
  return ⟨parallelism, size⟩

instance : OfDocument EffectiveResources := ⟨Decoding.shaped "EffectiveResources" ofObject ofArray⟩

end EffectiveResources

end Conveyor
