import StyleRules.Text.CaseTable
import StyleRules.Text.Classes

/-!
# Upper and lower case of whole texts

Case mapping is the full one: a character may become several, and a capital sigma at the end of a word
becomes the final small sigma.
-/

namespace StyleRules.Text

def upperChar (c : Char) : List Char :=
  if c.toNat < 128 then [c.toUpper]
  else
    match upperExpansions.find? (·.1 = c.toNat) with
    | some entry => entry.2.map Char.ofNat
    | none =>
      match upperRuns.findSome? (·.image? c.toNat) with
      | some code => [Char.ofNat code]
      | none => [c]

/-- The characters of the lower case of one character, sigma apart. -/
def lowerChar (c : Char) : List Char :=
  if c.toNat < 128 then [c.toLower]
  else
    match lowerExpansions.find? (·.1 = c.toNat) with
    | some entry => entry.2.map Char.ofNat
    | none =>
      match lowerRuns.findSome? (·.image? c.toNat) with
      | some code => [Char.ofNat code]
      | none => [c]

def isCased (c : Char) : Bool :=
  c.isUpper || c.isLower || (128 ≤ c.toNat && inRanges casedRanges c)

/-- The character is passed over when the neighbours of a sigma are looked up. -/
def isIgnorable (c : Char) : Bool :=
  inRanges ignorableRanges c

/-- The first character that is not passed over has case. -/
def nextIsCased (chars : List Char) : Bool :=
  match chars.dropWhile isIgnorable with
  | [] => false
  | c :: _ => isCased c

/-- The lower case of `chars`, where `before` holds the characters already passed, nearest first. -/
def lowerFrom (before : List Char) : List Char → List Char
  | [] => []
  | c :: rest =>
    let image :=
      if c = 'Σ' then
        if nextIsCased before && !nextIsCased rest then ['ς'] else ['σ']
      else lowerChar c
    image ++ lowerFrom (c :: before) rest

/-! ## Characters that differ only in case -/

/-- The lower case of a character as one character. -/
def foldCase (c : Char) : Char := (lowerChar c).headD c

/-- The characters whose lower case begins with a character. -/
def lowerSources (c : Char) : List Char :=
  let moved := lowerRuns.filterMap (·.source? c.toNat)
  let expanded := (lowerExpansions.filter fun entry => entry.2.head? = some c.toNat).map (·.1)
  let letters := c.toUpper :: c :: (moved ++ expanded).map Char.ofNat
  letters.filter fun d => foldCase d = c

/-- The characters with a given upper case. -/
def upperSources (image : List Char) : List Char :=
  let moved := image.flatMap fun c =>
    c :: c.toLower :: (upperRuns.filterMap (·.source? c.toNat)).map Char.ofNat
  let expanded := (upperExpansions.filter fun entry => entry.2 = image.map Char.toNat).map (·.1)
  (moved ++ expanded.map Char.ofNat).filter fun d => upperChar d = image

/-- The characters that count as the same letter: those with the same lower case, and those whose lower
case has the same upper case. -/
def caseVariants (c : Char) : List Char :=
  let small := foldCase c
  (small :: (upperSources (upperChar small)).map foldCase).flatMap lowerSources

/-- The upper case of a text. -/
def upper (s : String) : String :=
  String.ofList (s.toList.flatMap upperChar)

/-- The lower case of a text. -/
def lower (s : String) : String :=
  String.ofList (lowerFrom [] s.toList)

end StyleRules.Text
