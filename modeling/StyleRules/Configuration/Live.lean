import StyleRules.Configuration.Basic

/-!
# Configurations whose mappings are shared

The mappings of a configuration are objects.  One object may stand at several places: a caller may set it twice, or a
transformer may give it for several texts.  What is written into it then changes at all these places.  Mappings that
may stand at several places are numbered here; all others stand where they are and nowhere else.
-/

namespace StyleRules

/-- The way to a part of a value: the positions of entries and items. -/
abbrev Route := List Nat

/-- The numbered mappings inside a value, by the ways to them.  One number stands for one object. -/
abbrev Marks := List (Route × Nat)

/-- A value with its numbered mappings. -/
structure Marked where
  value : Value
  marks : Marks := []

/-! ## Parts of values -/

namespace Value

mutual

/-- The ways to the parts of a value that satisfy a test, the value itself included. -/
def routes (test : Value → Bool) : Value → List Route
  | .list items => (if test (.list items) then [[]] else []) ++ itemRoutes test 0 items
  | .map entries => (if test (.map entries) then [[]] else []) ++ entryRoutes test 0 entries
  | other => if test other then [[]] else []

def itemRoutes (test : Value → Bool) (position : Nat) : List Value → List Route
  | [] => []
  | item :: rest => (routes test item).map (position :: ·) ++ itemRoutes test (position + 1) rest

def entryRoutes (test : Value → Bool) (position : Nat) : List (Value × Value) → List Route
  | [] => []
  | (_, value) :: rest => (routes test value).map (position :: ·) ++ entryRoutes test (position + 1) rest

end

/-- The part that a way leads to. -/
def part? : Route → Value → Option Value
  | [], value => some value
  | position :: rest, .list items => (items[position]?).bind (part? rest)
  | position :: rest, .map entries => (entries[position]?).bind fun entry => part? rest entry.2
  | _ :: _, _ => none

/-- Replace the part that a way leads to. -/
def putPart (part : Value) : Route → Value → Value
  | [], _ => part
  | position :: rest, .list items => .list (items.modify position (putPart part rest))
  | position :: rest, .map entries =>
    .map (entries.modify position fun entry => (entry.1, putPart part rest entry.2))
  | _ :: _, other => other

/-- The way along names, as far as the parts that they lead to satisfy a test. -/
def routeAlong (test : Value → Bool) : List String → Value → Route
  | name :: rest, .map entries =>
    match Mapping.get? name entries with
    | some inner =>
      if test inner then entries.findIdx (·.1.isText name) :: routeAlong test rest inner else []
    | none => []
  | _, _ => []

end Value

namespace Marks

/-- The ways to a numbered mapping. -/
def routesTo (number : Nat) (marks : Marks) : List Route :=
  (marks.filter fun mark => mark.2 = number).map (·.1)

/-- The marks of a part as marks of the whole. -/
def below (route : Route) (marks : Marks) : Marks := marks.map fun mark => (route ++ mark.1, mark.2)

/-- The marks of the whole as marks of a part. -/
def inside (route : Route) (marks : Marks) : Marks :=
  (marks.filter fun mark => route.isPrefixOf mark.1).map fun mark => (mark.1.drop route.length, mark.2)

/-- The marks outside of a part. -/
def outside (route : Route) (marks : Marks) : Marks := marks.filter fun mark => !route.isPrefixOf mark.1

/-- A number that no mapping has yet. -/
def unused (marks : Marks) : Nat := marks.foldl (fun bound mark => max bound (mark.2 + 1)) 0

/-- Number the mappings at further ways, if they are not numbered. -/
def extend (first : Nat) (routes : List Route) (marks : Marks) : Marks :=
  marks ++ (routes.filter fun route => (marks.lookup route).isNone).zipIdx first

end Marks

namespace Marked

/-- A numbered mapping was changed: it is put in all its places. -/
def mirror (number : Nat) (changed whole : Marked) : Marked :=
  (whole.marks.routesTo number).foldl (fun whole route =>
    ⟨Value.putPart changed.value route whole.value, whole.marks.outside route ++ changed.marks.below route⟩) whole

end Marked

/-! ## Live configurations -/

/-- A configuration with its numbered mappings, and with those of the constant that its transformer at load gives. -/
structure LiveConfiguration where
  configuration : Configuration
  marks : Marks := []
  constantMarks : Marks := []

namespace LiveConfiguration

/-- What the transformer that is applied at load gives for all texts, if it is a constant. -/
def constant? (live : LiveConfiguration) : Option Value :=
  match live.configuration.transformerAtLoad with
  | .custom (.callable (.constant value)) => some value
  | _ => none

/-- The entries stand for texts of a merged configuration: a constant stands for all of them. -/
def remarked (merged : Value) (live : LiveConfiguration) : LiveConfiguration :=
  match live.constant? with
  | some constant =>
    let constantMarks := Marks.extend 0 (constant.routes Value.isMapping) []
    let texts := merged.routes fun
      | .str _ => true
      | _ => false
    { live with marks := texts.flatMap constantMarks.below, constantMarks }
  | none => { live with marks := [] }

/-- Perform an action on the configuration. -/
def onConfiguration {α : Type} (action : Action Configuration α) : Action LiveConfiguration α :=
  Action.onPart (·.configuration) (fun configuration live => { live with configuration }) action

/-- Load a source.  The mappings are made anew, apart from those that the transformer gives. -/
def load (host : Host) (source format : Value) : Action LiveConfiguration Unit := do
  let config ← Action.ofOutcome (Configuration.sourceOf host source format)
  let merged ← Action.ofOutcome (Configuration.merge (.map Configuration.defaults) config)
  let _ ← Action.ofOutcome ((← get).configuration.layOverDefaults host config)
  modify (remarked merged)
  onConfiguration (Configuration.load host source format)

def registerTransformer (name function : Value) : Action LiveConfiguration Unit := do
  onConfiguration (Configuration.registerTransformer name function)
  if name.eq Configuration.loadTransformer then modify fun live => { live with constantMarks := [] }

/-- Replace the constant that the transformer at load gives. -/
def withConstant (constant : Marked) (live : LiveConfiguration) : LiveConfiguration :=
  let transformers := Mapping.insert Configuration.loadTransformer
    (.custom (.callable (.constant constant.value))) live.configuration.transformers
  { live with configuration := { live.configuration with transformers }, constantMarks := constant.marks }

/-- A numbered mapping of the configuration was changed: it changes wherever it stands. -/
def mirrored (number : Nat) (changed : Marked) (live : LiveConfiguration) : LiveConfiguration :=
  let whole := changed.mirror number ⟨.map live.configuration.entries, live.marks⟩
  let entries := match whole.value with
    | .map entries => entries
    | _ => live.configuration.entries
  let live := { live with configuration := { live.configuration with entries }, marks := whole.marks }
  match live.constant? with
  | some constant => live.withConstant (changed.mirror number ⟨constant, live.constantMarks⟩)
  | none => live

/-- The way to the last mapping on a path, which is written into when a value is set at the path. -/
def target (live : LiveConfiguration) (path : String) : Route :=
  (Value.map live.configuration.entries).routeAlong Value.isMapping (Configuration.pathNames path).dropLast

/-- Set the value at a dotted path.  The last mapping on the way is written into, wherever it stands.  Inside of a
numbered mapping all mappings are numbered. -/
def set (path : String) (given : Marked) (live : LiveConfiguration) : LiveConfiguration :=
  let names := Configuration.pathNames path
  let written := live.configuration.set path given.value
  let entries : Value := .map written.entries
  let home := entries.routeAlong (fun _ => true) names
  let target := live.target path
  let slot := home.take (target.length + 1)
  let marks := live.marks.outside slot ++ given.marks.below home
  match live.marks.lookup target with
  | none => { live with configuration := written, marks }
  | some number =>
    let unused := Marks.unused (live.marks ++ live.constantMarks ++ given.marks)
    let marks := marks.extend unused ((entries.routes Value.isMapping).filter slot.isPrefixOf)
    let changed : Marked := ⟨(entries.part? target).getD entries, marks.inside target⟩
    mirrored number changed { live with configuration := written, marks }

/-- Set a mapping, or another value, that stands nowhere else, at a path that has to be a text. -/
def setAt (path value : Value) : Action LiveConfiguration Unit := do
  match path with
  | .str text => modify (set text ⟨value, []⟩)
  | _ => throw (.misuse .attribute)

end LiveConfiguration

end StyleRules
