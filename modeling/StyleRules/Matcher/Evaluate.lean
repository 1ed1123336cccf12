import StyleRules.Callable.Apply
import StyleRules.Element
import StyleRules.Pattern.Match

/-!
# Evaluating matchers

A matcher is asked whether it matches an element.  The matchers of the library answer with a truth value;
a caller's function may give any value and may fail.  Style templates, structural templates and
conditional matchers count every failure of such a function as a non-match.
-/

namespace StyleRules

namespace Value

/-- The field of an element equals a value. -/
def fieldIs (element : Value) (name : String) (expected : Value) : Bool :=
  (element.field name).eq expected

def fieldIsText (element : Value) (name text : String) : Bool :=
  (element.field name).isText text

/-- The field equals a value; a value that counts as false does not constrain it. -/
def fieldAgrees (element : Value) (name : String) (expected : Value) : Bool :=
  !expected.truthy || element.fieldIs name expected

/-- The field equals a value; null does not constrain it. -/
def fieldAgreesUnlessNull (element : Value) (name : String) (expected : Value) : Bool :=
  expected.isNull || element.fieldIs name expected

end Value

/-- The outcome is a value that counts as true. -/
def Outcome.accepted (answer : Outcome Value) : Bool :=
  match answer with
  | .ok v => v.truthy
  | .error _ => false

namespace Matcher

/-- The element has the list level and the kind of numbering that a constraint names. -/
def listAgrees (constraint element : Value) : Bool :=
  if constraint.isNull then true
  else
    let numbering := element.field "numbering"
    numbering.truthy && numbering.fieldIs "level" (constraint.field "levelIndex") &&
      numbering.fieldIs "isOrdered" (constraint.field "isOrdered")

/-- The style name of the element satisfies a constraint. -/
def styleNameAgrees (constraint : Option StyleName) (element : Value) : Bool :=
  match constraint with
  | none => true
  | some styleName =>
    match element.field "styleName" with
    | .str name => styleName.accepts name
    | _ => false

/-- The element has one of several types. -/
def typeIsOneOf (types : List String) (element : Value) : Bool :=
  types.any fun name => element.fieldIsText "type" name

/-- The source of a media object occurs in the field `src`. -/
def sourceAgrees (source element : Value) : Outcome Bool :=
  if source.truthy then
    let src := element.field "src"
    if src.truthy then src.contains source else .ok false
  else .ok true

/-- The media type of an element, which falls back to its type. -/
def mediaTypeAgrees (mediaType element : Value) : Bool :=
  !mediaType.truthy ||
    ((element.field "mediaType").orElse (element.field "type")).eq mediaType

/-- The class name of a container occurs in the field `className`. -/
def classNameAgrees (className element : Value) : Outcome Bool :=
  if className.truthy then
    let actual := element.field "className"
    if actual.truthy then actual.contains className else .ok false
  else .ok true

/-- Every entry of an attribute map equals the attribute of the element. -/
def entriesAgree (attributes : Value) : List (Value × Value) → Outcome Bool
  | [] => .ok true
  | (name, expected) :: rest => do
    if (← attributes.fieldAt name).eq expected then entriesAgree attributes rest else return false

/-- The element has the attributes that a container asks for. -/
def attributesAgree (expected element : Value) : Outcome Bool :=
  if expected.truthy then
    let attributes := element.field "attributes"
    if attributes.truthy then do entriesAgree attributes (← expected.items) else .ok false
  else .ok true

/-- The number of children lies within bounds; a bound that counts as false is none. -/
def childCountAgrees (bounds element : Value) : Outcome Bool := do
  let children := element.field "children"
  if bounds.truthy && !children.isNull then
    let least ← bounds.option "minCount"
    let most ← bounds.option "maxCount"
    if least.truthy then
      let count ← children.length
      if ← (Value.int count).less least then return false
    if most.truthy then
      let count ← children.length
      if ← most.less (Value.int count) then return false
    return true
  else return true

/-- The element has a type, and that type is not `text`. -/
def isContainer (element : Value) : Bool :=
  (element.field "type").truthy && !element.fieldIsText "type" "text"

/-- The element is a container with the given type, class name, attributes and children. -/
def containerAgrees (containerType className attributes children element : Value) :
    Outcome Bool := do
  if !isContainer element then return false
  if !element.fieldAgrees "containerType" containerType then return false
  if !(← classNameAgrees className element) then return false
  if !(← attributesAgree attributes element) then return false
  childCountAgrees children element

end Matcher

mutual

def Value.call : Value → List Value → Outcome Value
  | .callable function, args => function.apply args
  | .matcher m, [element] => m.matches element
  | _, _ => Outcome.wrongType
termination_by structural subject => subject

/-- Ask a value whether it matches an element. -/
def Value.matches : Value → Value → Outcome Value
  | .matcher m, element => m.matches element
  | .record _ fields, element => Value.fieldMatches fields element
  | _, _ => Outcome.noAttribute
termination_by structural subject => subject

/-- Call the attribute `matches` of an object. -/
def Value.fieldMatches : List (String × Value) → Value → Outcome Value
  | [], _ => Outcome.noAttribute
  | (name, value) :: rest, element =>
    if name = "matches" then value.call [element] else Value.fieldMatches rest element
termination_by structural subject => subject

/-- Ask a matcher whether it matches an element. -/
def Matcher.matches : Matcher Value → Value → Outcome Value
  | .noop _, _ => .ok (.bool false)
  | .conditional _ condition fallback, element =>
    .ok (.bool (!condition.isNull &&
      ((condition.call [element]).accepted || (fallback.matches element).accepted)))
  | .element elementType styleId styleName list, element =>
    .ok (.bool (element.fieldIs "type" elementType && element.fieldAgreesUnlessNull "styleId" styleId &&
      Matcher.styleNameAgrees styleName element && Matcher.listAgrees list element))
  | .plainBreak kind, element =>
    .ok (.bool (element.fieldIsText "type" "break" && element.fieldIs "breakType" kind))
  | .highlight color, element =>
    .ok (.bool (element.fieldIsText "type" "highlight" &&
      element.fieldAgreesUnlessNull "color" color))
  | .styleTemplate template options, element =>
    .ok (.bool (StyleTemplate.accepts template element options))
  | .sectionBreak sectionType continuous, element =>
    .ok (.bool (element.fieldIsText "type" "break" && element.fieldIsText "breakType" "section" &&
      element.fieldIs "sectionType" sectionType && element.fieldIs "continuous" continuous))
  | .wrapBreak side wrapType, element =>
    .ok (.bool (element.fieldIsText "type" "break" && element.fieldIsText "breakType" "wrapText" &&
      element.fieldAgreesUnlessNull "side" side && element.fieldIs "wrapType" wrapType))
  | .clearBreak side, element =>
    .ok (.bool (element.fieldIsText "type" "break" && element.fieldIsText "breakType" "clear" &&
      element.fieldIs "clear" side))
  | .formField fieldType fieldName required placeholder, element =>
    .ok (.bool (element.fieldIsText "type" "formField" &&
      element.fieldAgrees "fieldType" fieldType && element.fieldAgrees "name" fieldName &&
      element.fieldAgreesUnlessNull "required" required &&
      element.fieldAgrees "placeholder" placeholder))
  | .equation mathType writtenAs, element =>
    .ok (.bool (Matcher.typeIsOneOf ["equation", "math"] element &&
      element.fieldAgrees "mathType" mathType && element.fieldAgrees "notation" writtenAs))
  | .media mediaType mimeType source, element =>
    if Matcher.typeIsOneOf ["media", "image", "video", "audio"] element &&
        Matcher.mediaTypeAgrees mediaType element && element.fieldAgrees "mimeType" mimeType then do
      return .bool (← Matcher.sourceAgrees source element)
    else .ok (.bool false)
  | .container containerType className attributes children, element => do
    return .bool (← Matcher.containerAgrees containerType className attributes children element)
  | .structural template strict, element =>
    .ok (.bool (Template.acceptsOption strict template element))
  | .unbound _ _, _ => .ok (.bool false)
  | .transform _ _ _, _ | .detached _ _ _, _ => .ok (.bool false)
  | .scripted test, element => test.call [element]
termination_by structural subject => subject

/-- An element satisfies a style template; a failing condition counts as unsatisfied. -/
def StyleTemplate.accepts : StyleTemplate Value → Value → Value → Bool
  | ⟨elementType, styleId, styleName, conditions⟩, element, options =>
    element.fieldAgrees "type" elementType && element.fieldAgrees "styleId" styleId &&
      element.fieldAgrees "styleName" styleName &&
      match Condition.allHold conditions element options with
      | .ok answer => answer
      | .error _ => false
termination_by structural subject => subject

/-- Conditions hold of an element; the first that does not, or that fails, decides. -/
def Condition.allHold : List (Condition Value) → Value → Value → Outcome Bool
  | [], _, _ => .ok true
  | condition :: rest, element, options =>
    match condition.holds element options with
    | .ok true => Condition.allHold rest element options
    | other => other
termination_by structural subject => subject

/-- A condition holds of an element. -/
def Condition.holds : Condition Value → Value → Value → Outcome Bool
  | .property name expected, element, _ => do return (← element.fieldAt name).eq expected
  | .attribute name expected, element, _ => do
    let attributes := element.field "attributes"
    if attributes.truthy then return (← attributes.fieldAt name).eq expected else return false
  | .custom evaluator, element, options =>
    if evaluator.isCallable then do return (← evaluator.call [element, options]).truthy
    else .ok false
  | .unconstrained, _, _ => .ok true
  | .malformed reason, _, _ => .error reason
termination_by structural subject => subject

/-- An element has the shape of a template; a missing template has no shape. -/
def Template.acceptsOption (strict : Bool) : Option (Template Value) → Value → Bool
  | none, _ => false
  | some template, element => Template.accepts strict template element
termination_by structural subject => subject

/-- An element has the shape of a template. -/
def Template.accepts (strict : Bool) : Template Value → Value → Bool
  | .malformed, _ => false
  | .node elementType properties attributes children countable custom, element =>
    element.fieldAgrees "type" elementType &&
      Template.fieldsAccepted strict properties element &&
      (attributes.isEmpty ||
        (let found := element.field "attributes"
        (found.truthy || !strict) &&
          Template.fieldsAccepted strict attributes (if found.truthy then found else .null))) &&
      ((countable && children.isEmpty) || (element.field "children").isNull ||
        (countable &&
          match element.children with
          | .ok elements =>
            (!strict || elements.length = children.length) &&
              Template.childrenAccepted strict children elements
          | .error _ => false)) &&
      Template.customAccepts custom element
termination_by structural subject => subject

/-- The fields of an element are as expected. -/
def Template.fieldsAccepted (strict : Bool) : List (Value × Expected Value) → Value → Bool
  | [], _ => true
  | (name, expected) :: rest, element =>
    (match element.fieldAt name with
      | .ok actual => Expected.accepts strict expected actual
      | .error _ => false) &&
      Template.fieldsAccepted strict rest element
termination_by structural subject => subject

/-- Children have the shapes of templates, position by position, as far as both go. -/
def Template.childrenAccepted (strict : Bool) : List (Template Value) → List Value → Bool
  | template :: templates, element :: elements =>
    Template.accepts strict template element && Template.childrenAccepted strict templates elements
  | _, _ => true
termination_by structural subject => subject

/-- The function of a template, if it has one, accepts an element. -/
def Template.customAccepts : Option Value → Value → Bool
  | none, _ => true
  | some test, element => (test.call [element]).accepted
termination_by structural subject => subject

/-- A value is as expected. -/
def Expected.accepts (strict : Bool) : Expected Value → Value → Bool
  | .absent, actual => !strict || actual.isNull
  | .pattern pattern, actual =>
    !actual.isNull &&
      match pattern with
      | some p => p.occurs actual.text
      | none => false
  | .oneOf choices, actual =>
    match choices.contains actual with
    | .ok answer => answer
    | .error _ => false
  | .test test, actual => (test.call [actual]).accepted
  | .literal value, actual => actual.eq value
termination_by structural subject => subject

end

/-- Whether an element satisfies a style template, with the failure of a condition passed on. -/
def StyleTemplate.holds (template : StyleTemplate Value) (element options : Value) : Outcome Bool :=
  if element.fieldAgrees "type" template.elementType && element.fieldAgrees "styleId" template.styleId &&
      element.fieldAgrees "styleName" template.styleName then
    Condition.allHold template.conditions element options
  else .ok false

end StyleRules
