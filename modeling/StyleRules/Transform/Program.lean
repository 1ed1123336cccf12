import StyleRules.Transform.XPath

/-!
# Programs of stylesheets

What a stylesheet does with a document: its parameters are given or have a default, its single template stands
for the document, and the instructions inside choose the content of one element `result`.  The source of a
stylesheet is its program, written out, and a stylesheet is recognised by its exact source.
-/

namespace StyleRules

open XPath (Expr Item Object Variables)

/-- The content of the element `result`. -/
inductive ResultContent where
  | text (s : String)
  /-- The text of an expression. -/
  | valueOf (select : Expr)

mutual

/-- The instructions of a template. -/
inductive Instructions where
  | result (content : ResultContent)
  /-- Give a name to the value of an expression, for the instructions that follow. -/
  | define (name : String) (select : Expr) (rest : Instructions)
  | choose (cases : Cases)

/-- The cases of a choice, of which the first one that applies is taken. -/
inductive Cases where
  | when (test : Expr) (body : Instructions) (others : Cases)
  | otherwise (body : Instructions)

end

/-- A parameter; without a default it is an empty text when it is not given. -/
structure SheetParameter where
  name : String
  default : Option Expr := none

structure SheetProgram where
  parameters : List SheetParameter
  body : Instructions

/-! ## Running -/

def ResultContent.run (root : Xml.Node) (values : Variables) : ResultContent → String
  | .text s => s
  | .valueOf select => (select.eval root values (.document root)).toText

mutual

/-- The text of the element `result` that instructions write about the document with the given root. -/
def Instructions.run (root : Xml.Node) (values : Variables) : Instructions → String
  | .result content => content.run root values
  | .define name select rest =>
    rest.run root ((name, select.eval root values (.document root)) :: values)
  | .choose cases => cases.run root values

def Cases.run (root : Xml.Node) (values : Variables) : Cases → String
  | .when test body others =>
    if (test.eval root values (.document root)).toTruth then body.run root values
    else others.run root values
  | .otherwise body => body.run root values

end

/-- The value of a parameter, given the texts of a call. -/
def SheetParameter.value (given : List (String × String)) (root : Xml.Node) (parameter : SheetParameter) :
    Object :=
  match given.lookup parameter.name with
  | some text => .text text
  | none =>
    match parameter.default with
    | some select => select.eval root [] (.document root)
    | none => .text ""

def SheetProgram.run (program : SheetProgram) (root : Xml.Node) (given : List (String × String)) : String :=
  program.body.run root (program.parameters.map fun parameter => (parameter.name, parameter.value given root))

/-! ## Writing -/

/-- A line of a stylesheet with its depth; a line without text is blank. -/
abbrev SheetLine := Nat × String

namespace SheetLine

def indented (line : SheetLine) : String :=
  if line.2.isEmpty then "\n" else String.ofList (List.replicate (4 * line.1) ' ') ++ line.2 ++ "\n"

end SheetLine

def ResultContent.written : ResultContent → String
  | .text s => s
  | .valueOf select => "<xsl:value-of select=\"" ++ select.written ++ "\"/>"

mutual

def Instructions.lines (depth : Nat) : Instructions → List SheetLine
  | .result content => [(depth, "<result>" ++ content.written ++ "</result>")]
  | .define name select rest =>
    (depth, "<xsl:variable name=\"" ++ name ++ "\" select=\"" ++ select.written ++ "\"/>") ::
      match rest with
      | .define _ _ _ => rest.lines depth
      | _ => (0, "") :: rest.lines depth
  | .choose cases => (depth, "<xsl:choose>") :: (cases.lines (depth + 1) ++ [(depth, "</xsl:choose>")])

def Cases.lines (depth : Nat) : Cases → List SheetLine
  | .when test body others =>
    (depth, "<xsl:when test=\"" ++ test.written ++ "\">") ::
      (body.lines (depth + 1) ++ (depth, "</xsl:when>") :: others.lines depth)
  | .otherwise body =>
    (depth, "<xsl:otherwise>") :: (body.lines (depth + 1) ++ [(depth, "</xsl:otherwise>")])

end

def SheetParameter.line (parameter : SheetParameter) : SheetLine :=
  let select := match parameter.default with
    | some select => " select=\"" ++ select.written ++ "\""
    | none => ""
  (1, "<xsl:param name=\"" ++ parameter.name ++ "\"" ++ select ++ "/>")

def SheetProgram.lines (program : SheetProgram) : List SheetLine :=
  (0, "<xsl:stylesheet version=\"1.0\" xmlns:xsl=\"http://www.w3.org/1999/XSL/Transform\">") ::
    (program.parameters.map SheetParameter.line ++ (if program.parameters.isEmpty then [] else [(0, "")]) ++
      (1, "<xsl:template match=\"/\">") :: (program.body.lines 2 ++
        [(1, "</xsl:template>"), (0, "</xsl:stylesheet>")]))

/-- The stylesheet of a program, line by line. -/
def SheetProgram.written (program : SheetProgram) : String :=
  String.join (program.lines.map SheetLine.indented)

/-! ## The common stylesheets -/

/-- The stylesheets that the library ships. -/
inductive Stylesheet where
  /-- Compares the style of an element. -/
  | style
  /-- Compares type, number of children and presence of text. -/
  | complex
  /-- Compares one entry of the attribute map. -/
  | attribute
  deriving Repr, DecidableEq

namespace Stylesheet

def name : Stylesheet → String
  | .style => "style-matcher"
  | .complex => "complex-matcher"
  | .attribute => "attribute-matcher"

def all : List Stylesheet := [.style, .complex, .attribute]

/-- The attribute of the root element `element`. -/
def rootAttribute (label : String) : Expr := .attribute (.child .document "element") label

def styleProgram : SheetProgram where
  parameters := [⟨"styleId", none⟩, ⟨"styleName", none⟩, ⟨"matchType", some (.literal "exact")⟩]
  body := .choose
    (.when (.both (.named "styleId") (.compare .equal (rootAttribute "styleId") (.named "styleId")))
      (.result (.text "true"))
    (.when (.named "styleName")
      (.choose
        (.when (.both (.compare .equal (.named "matchType") (.literal "contains"))
            (.contains (rootAttribute "styleName") (.named "styleName")))
          (.result (.text "true"))
        (.when (.both (.compare .equal (.named "matchType") (.literal "startsWith"))
            (.startsWith (rootAttribute "styleName") (.named "styleName")))
          (.result (.text "true"))
        (.when (.both (.compare .equal (.named "matchType") (.literal "exact"))
            (.compare .equal (rootAttribute "styleName") (.named "styleName")))
          (.result (.text "true"))
        (.otherwise (.result (.text "false")))))))
    (.otherwise (.result (.text "false")))))

/-- What is asked of the type, the number of children and the text of the root element. -/
def complexCases : Cases :=
  .when (.both (.named "elementType")
      (.compare .different (.attribute (.named "element") "type") (.named "elementType")))
    (.result (.text "false"))
  (.when (.either (.compare .less (.named "childCount") (.toNumber (.named "minChildren")))
      (.compare .greater (.named "childCount") (.toNumber (.named "maxChildren"))))
    (.result (.text "false"))
  (.when (.both (.compare .equal (.named "hasText") (.literal "true"))
      (.negation (.child (.named "element") "text")))
    (.result (.text "false"))
  (.when (.both (.compare .equal (.named "hasText") (.literal "false")) (.child (.named "element") "text"))
    (.result (.text "false"))
  (.otherwise (.result (.text "true"))))))

def complexProgram : SheetProgram where
  parameters := [⟨"elementType", none⟩, ⟨"minChildren", some (.number 0)⟩, ⟨"maxChildren", some (.number 999)⟩,
    ⟨"hasText", none⟩]
  body :=
    .define "element" (.child .document "element")
    (.define "childCount" (.count (.child (.child (.named "element") "children") "element"))
    (.choose complexCases))

/-- The entries of the attribute map with the name that is asked for. -/
def entriesAskedFor : Expr :=
  .attributesWhere (.child (.child .document "element") "attributes")
    (.compare .equal .ownName (.named "attribute"))

def attributeProgram : SheetProgram where
  parameters := [⟨"attribute", none⟩, ⟨"value", none⟩]
  body := .choose
    (.when (.both (.named "attribute")
        (.compare .equal entriesAskedFor (.named "value")))
      (.result (.text "true"))
    (.otherwise (.result (.text "false"))))

/-- What a stylesheet does. -/
def program : Stylesheet → SheetProgram
  | .style => styleProgram
  | .complex => complexProgram
  | .attribute => attributeProgram

/-- The text of a stylesheet. -/
def source (sheet : Stylesheet) : String := sheet.program.written

/-- Recognise a stylesheet by its source. -/
def ofSource? (source : String) : Option Stylesheet :=
  all.find? fun sheet => sheet.source = source

end Stylesheet

end StyleRules
