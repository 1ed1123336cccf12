import StyleRules.Matcher.Template

/-!
# Building matchers

A matcher of each kind is built from positional arguments, normally from one mapping of rule options.
Options that are missing, null or empty leave the matcher unconstrained; options that are not a mapping
cannot be read.
-/

namespace StyleRules

namespace StyleName

/-- Look up an operator given as a value. -/
def operatorOfValue (operator : Value) : Outcome StyleOperator :=
  if !operator.isKey then Outcome.wrongType
  else
    match operator with
    | .str name =>
      match StyleOperator.ofName? name with
      | some found => .ok found
      | none => .error (.unknownStyleOperator name)
    | other => .error (.unknownStyleOperator other.text)

/-- Read the constraint of an option: null has none, a mapping names operand and operator, and the text of
any other value is the operand of an equality. -/
def ofOption (option : Value) : Outcome (Option StyleName) :=
  match option with
  | .null => .ok none
  | .map entries => do
    let operand ← option.entry (.str "operand")
    let operator := (Mapping.get? "operator" entries).getD (.str StyleOperator.equalTo.name)
    return some ⟨operand.text, ← operatorOfValue operator⟩
  | other => .ok (some ⟨other.text, .equalTo⟩)

/-- Read operand and operator from positional arguments; the operand may be any value. -/
def ofArguments : List Value → Outcome (Value × StyleOperator)
  | [operand] => .ok (operand, .equalTo)
  | [operand, operator] => do return (operand, ← operatorOfValue operator)
  | _ => Outcome.wrongType

/-- Compare a value as a style name; only texts that are not empty can satisfy a constraint. -/
def acceptsValue (operand : Value) (operator : StyleOperator) (name : Value) : Outcome Bool :=
  match name with
  | .str s =>
    if s.isEmpty then .ok false
    else
      match operand with
      | .str t => .ok (accepts ⟨t, operator⟩ s)
      | _ => Outcome.noAttribute
  | _ => .ok false

end StyleName

namespace OptionCheck

/-- The option is missing, counts as false, or is one of the choices. -/
def oneOf (name : String) (choices : List String) (options : Value) : Outcome Bool := do
  let chosen ← options.option name
  return !chosen.truthy || choices.any chosen.isText

/-- Check rule options. -/
def accepts (check : OptionCheck) (options : Value) : Outcome Bool :=
  match check with
  | .always => .ok true
  | .wrapText => oneOf "side" ["left", "right", "both"] options
  | .clear => oneOf "clear" ["left", "right", "both", "none"] options
  | .conditional =>
    if options.truthy then return (← options.option "condition").isCallable else .ok false
  | .formField => oneOf "fieldType" ["text", "checkbox", "dropdown", "date", "number"] options
  | .media => oneOf "mediaType" ["image", "video", "audio", "embed"] options
  | .container => do
    let containerType ← options.option "containerType"
    if containerType.truthy then return true
    let className ← options.option "className"
    if className.truthy then return true
    return (← options.option "attributes").truthy
  | .template => return (← options.option "template").isMapping

end OptionCheck

namespace Matcher

/-- The matcher of elements of one type with the constraints of rule options. -/
def ofElementOptions (elementType options : Value) : Outcome (Matcher Value) := do
  let options := options.orElse (.map [])
  let styleId ← options.option "styleId"
  let styleName ← StyleName.ofOption (← options.option "styleName")
  return .element elementType styleId styleName (← options.option "list")

/-- Build a matcher of a kind that takes nothing but rule options. -/
def ofOptions (kind : MatcherKind) (options : Value) : Outcome (Matcher Value) := do
  let options := options.orElse (.map [])
  match kind with
  | .conditionalBreak =>
    return .conditional true (← options.option "condition") (← options.option "fallbackMatcher")
  | .sectionBreak =>
    return .sectionBreak ((← options.option "sectionType").orElse (.str "nextPage"))
      ((← options.option "continuous").orElse (.bool false))
  | .wrapBreak =>
    return .wrapBreak (← options.option "side") ((← options.option "wrapType").orElse (.str "around"))
  | .clearBreak => return .clearBreak ((← options.option "clear").orElse (.str "both"))
  | .formField =>
    return .formField (← options.option "fieldType") (← options.option "fieldName")
      (← options.option "required") (← options.option "placeholder")
  | .equation => return .equation (← options.option "mathType") (← options.option "notation")
  | .media =>
    return .media (← options.option "mediaType") (← options.option "mimeType")
      (← options.option "source")
  | .container =>
    return .container (← options.option "containerType") (← options.option "className")
      ((← options.option "attributes").orElse (.map [])) (← options.option "children")
  | .structural => do
    let template ← options.option "template"
    let strict := match ← options.optionOr "strict" (.bool true) with
      | .bool false => false
      | _ => true
    return .structural (if template.truthy then some (Template.ofValue template) else none) strict
  | .paragraph => ofElementOptions (.str "paragraph") options
  | .run => ofElementOptions (.str "run") options
  | .table => ofElementOptions (.str "table") options
  | .highlightOptions => return .highlight (← options.option "color")
  | _ => Outcome.wrongType

/-- Build a matcher of a template of the engine at hand; its parameters are copied. -/
def ofTransform (template options : Value) : Outcome (Matcher Value) := do
  let options := options.orElse (.map [])
  let parameters ← ((← options.option "parameters").orElse (.map [])).toEntries
  return .transform template parameters (← options.optionOr "use_cache" (.bool true))

/-- The matcher away from the engine at hand. -/
def detach : Matcher Value → Matcher Value
  | .transform template parameters useCache => .detached template parameters useCache
  | other => other

/-- Build a matcher from positional arguments; too few or too many arguments are refused. -/
def build (kind : MatcherKind) (args : List Value) : Outcome (Matcher Value) :=
  match kind, args with
  | .noop, [] => .ok (.noop .null)
  | .noop, [reason] => .ok (.noop reason)
  | .noop, _ => Outcome.wrongType
  | .conditional, [] => .ok (.conditional false .null .null)
  | .conditional, [condition] => .ok (.conditional false condition .null)
  | .conditional, [condition, fallback] => .ok (.conditional false condition fallback)
  | .conditional, _ => Outcome.wrongType
  | .element, [elementType] => ofElementOptions elementType .null
  | .element, [elementType, options] => ofElementOptions elementType options
  | .element, _ => Outcome.wrongType
  | .plainBreak, [breakType] => .ok (.plainBreak breakType)
  | .plainBreak, _ => Outcome.wrongType
  | .highlight, [] => .ok (.highlight .null)
  | .highlight, [color] => .ok (.highlight color)
  | .highlight, _ => Outcome.wrongType
  | .styleTemplate, [template] => .ok (.styleTemplate (templateOf template) (.map []))
  | .styleTemplate, [template, options] =>
    .ok (.styleTemplate (templateOf template) (options.orElse (.map [])))
  | .styleTemplate, _ => Outcome.wrongType
  | .unbound, [ruleType, path] => .ok (.unbound ruleType path)
  | .unbound, _ => Outcome.wrongType
  | .transform, [_, template] => (ofTransform template .null).map detach
  | .transform, [_, template, options] => (ofTransform template options).map detach
  | .transform, _ => Outcome.wrongType
  | kind, [] => ofOptions kind .null
  | kind, [options] => ofOptions kind options
  | _, _ => Outcome.wrongType
where
  /-- Read a style template; a missing one constrains nothing. -/
  templateOf (template : Value) : StyleTemplate Value :=
    StyleTemplate.ofValue (template.orElse (.map []))

end Matcher

end StyleRules
