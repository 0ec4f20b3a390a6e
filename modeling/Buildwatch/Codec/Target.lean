import Buildwatch.Data.Record
import Buildwatch.Target.Basic

/-!
# Targets as data

Encoding and decoding of targets and project descriptions. A target specification
is a record whose field `type` says which kind it is; the other fields depend on it.
-/

namespace Buildwatch

/-! ## Units and projects -/

/-- The name of a kind of unit. -/
def UnitKind.name : UnitKind → String
  | .library => "library"
  | .executable => "executable"
  | .testSuite => "test-suite"
  | .benchmark => "benchmark"

def UnitKind.all : List UnitKind := [.library, .executable, .testSuite, .benchmark]

def UnitKind.toData (k : UnitKind) : Data := .string k.name

def UnitKind.ofData? (dialect : Dialect) : Data → Option UnitKind :=
  Data.variant? dialect UnitKind.name UnitKind.all

def BuildUnit.toData (u : BuildUnit) : Data :=
  .record [("type", u.kind.toData), ("name", .string u.name), ("target", .string u.target)]

def BuildUnit.ofData? (dialect : Dialect) (d : Data) : Option BuildUnit := do
  let f ← Fields.ofData? dialect ["type", "name", "target"] d
  let kind ← f.required "type" (UnitKind.ofData? dialect)
  let name ← f.required "name" Data.string?
  let target ← f.required "target" Data.string?
  some { kind, name, target }

def ProjectDescription.toData (p : ProjectDescription) : Data :=
  .record [("name", .string p.name), ("version", .string p.version),
    ("targets", .list (p.targets.map BuildUnit.toData))]

def ProjectDescription.ofData? (dialect : Dialect) (d : Data) : Option ProjectDescription := do
  let f ← Fields.ofData? dialect ["name", "version", "targets"] d
  let name ← f.required "name" Data.string?
  let version ← f.withDefault "version" "" Data.string?
  let targets ← f.withDefault "targets" [] (Data.list? (BuildUnit.ofData? dialect))
  some { name, version, targets }

/-! ## Target specifications -/

/-- The field that tells the kinds of targets apart. -/
def TargetSpec.tag : String := "type"

def TargetSpec.toData : TargetSpec → Data
  | .component project name =>
    .record [(tag, .string "component"), ("project", .string project), ("component", .string name)]
  | .all project => .record [(tag, .string "all"), ("project", .string project)]
  | .auto project => .record [(tag, .string "auto"), ("project", .string project)]

/-- Decodes the fields of the kind with this name. -/
def TargetSpec.ofContents? (dialect : Dialect) (kind : String) (d : Data) : Option TargetSpec :=
  if kind = "component" then do
    let f ← Fields.ofData? dialect ["project", "component"] d
    let project ← f.required "project" Data.string?
    let name ← f.required "component" Data.string?
    some (.component project name)
  else if kind = "all" then do
    let f ← Fields.ofData? dialect ["project"] d
    (f.required "project" Data.string?).map .all
  else if kind = "auto" then do
    let f ← Fields.ofData? dialect ["project"] d
    (f.required "project" Data.string?).map .auto
  else none

/-- How deeply the contents of a tagged record may be nested: they are kept in memory
until the tag is known. -/
def TargetSpec.maxDepth : Nat := 127

/-- Decodes a record with a tag, or a list that begins with it. -/
def TargetSpec.ofData? (dialect : Dialect) (d : Data) : Option TargetSpec :=
  if d.isSound dialect && d.depth ≤ maxDepth then
    match d with
    | .record fields =>
      match fields.filter (·.1 = tag) with
      | [(_, .string kind)] => ofContents? dialect kind (.record (fields.filter (·.1 ≠ tag)))
      | _ => none
    | .list (.string kind :: items) => ofContents? dialect kind (.list items)
    | _ => none
  else none

end Buildwatch
