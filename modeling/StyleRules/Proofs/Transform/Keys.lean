import StyleRules.Proofs.Json.Quoting
import StyleRules.Proofs.Json.Reordering
import StyleRules.Transform.Engine

/-!
# The keys of calls

A call is remembered under its document, the name of its template and its parameters, with bars in between.  There may
be more bars inside of the document and of the parameters.  The key still tells the parts: the parameters are cut off
by the quotes in them, and then the name by the last bar in front of it.
-/

namespace StyleRules.Engine

/-- The style of the keys of the cache. -/
abbrev keyStyle : Json.Style := ⟨none, true, true⟩

theorem spaced_keyStyle : keyStyle.Spaced := by
  intro unit noIndent
  cases noIndent

/-- Parts with bars in between are told by the whole, if there is no bar in a name and the ends are balanced. -/
theorem keyParts_inj {xml otherXml name otherName s t : String} (noBar : '|' ∉ name.toList)
    (otherNoBar : '|' ∉ otherName.toList) (balanced : Json.Balanced s) (otherBalanced : Json.Balanced t)
    (same : xml ++ "|" ++ name ++ "|" ++ s = otherXml ++ "|" ++ otherName ++ "|" ++ t) :
    xml = otherXml ∧ name = otherName ∧ s = t := by
  have bar : ("|" : String).toList = ['|'] := rfl
  have sameChars : (xml.toList ++ '|' :: name.toList) ++ '|' :: s.toList =
      (otherXml.toList ++ '|' :: otherName.toList) ++ '|' :: t.toList := by
    simpa [bar] using congrArg String.toList same
  obtain ⟨sameFront, sameEnd⟩ := balanced.cut otherBalanced sameChars
  have noBarWithin (more : List Char) : name.toList ≠ more ++ '|' :: otherName.toList := by
    intro split
    exact noBar (by simp [split])
  have noBarAround (more : List Char) : otherName.toList ≠ more ++ '|' :: name.toList := by
    intro split
    exact otherNoBar (by simp [split])
  obtain ⟨sameXml, sameName⟩ := append_separated noBarWithin noBarAround sameFront
  exact ⟨String.toList_inj.mp sameXml, String.toList_inj.mp sameName, sameEnd⟩

variable {v w : Value}

theorem exists_cacheKey (xml name : String) (isJson : IsJson v) :
    ∃ s, Json.write keyStyle v = .ok s ∧ Json.Balanced s ∧
      cacheKey (.str xml) (.str name) v = .ok (xml ++ "|" ++ name ++ "|" ++ s) := by
  obtain ⟨s, written⟩ := Json.exists_writeAt keyStyle isJson 0
  refine ⟨s, written, Json.balanced_writeAt spaced_keyStyle isJson 0 s written, ?_⟩
  have isWritten : Json.write keyStyle v = .ok s := written
  rw [cacheKey, isWritten]
  rfl

/-- A key tells the document, the name and the parameters, but not the order of the parameters. -/
theorem reordered_of_cacheKey {xml otherXml name otherName key : String} (noBar : '|' ∉ name.toList)
    (otherNoBar : '|' ∉ otherName.toList) (isJson : IsJson v) (otherJson : IsJson w)
    (isKey : cacheKey (.str xml) (.str name) v = .ok key)
    (isOtherKey : cacheKey (.str otherXml) (.str otherName) w = .ok key) :
    xml = otherXml ∧ name = otherName ∧ Json.Reordered v w := by
  obtain ⟨s, written, balanced, spelled⟩ := exists_cacheKey xml name isJson
  obtain ⟨t, otherWritten, otherBalanced, otherSpelled⟩ := exists_cacheKey otherXml otherName otherJson
  rw [spelled, Except.ok.injEq] at isKey
  rw [otherSpelled, Except.ok.injEq] at isOtherKey
  obtain ⟨sameXml, sameName, sameText⟩ :=
    keyParts_inj noBar otherNoBar balanced otherBalanced (isKey.trans isOtherKey.symm)
  refine ⟨sameXml, sameName, (Json.write_eq_iff spaced_keyStyle rfl isJson otherJson).mp ?_⟩
  rw [written, otherWritten, sameText]

/-- Calls have the same key exactly when they have the same document, the same name and the same parameters, whose
order does not matter. -/
theorem cacheKey_eq_iff {xml otherXml name otherName : String} (noBar : '|' ∉ name.toList)
    (otherNoBar : '|' ∉ otherName.toList) (isJson : IsJson v) (otherJson : IsJson w) :
    ∃ key otherKey, cacheKey (.str xml) (.str name) v = .ok key ∧
      cacheKey (.str otherXml) (.str otherName) w = .ok otherKey ∧
        (key = otherKey ↔ xml = otherXml ∧ name = otherName ∧ Json.Reordered v w) := by
  obtain ⟨s, written, _, isKey⟩ := exists_cacheKey xml name isJson
  obtain ⟨t, otherWritten, _, isOtherKey⟩ := exists_cacheKey otherXml otherName otherJson
  refine ⟨_, _, isKey, isOtherKey, ?_⟩
  constructor
  · intro same
    exact reordered_of_cacheKey noBar otherNoBar isJson otherJson (isKey.trans (congrArg Except.ok same)) isOtherKey
  · rintro ⟨rfl, rfl, reordered⟩
    have sameText := (Json.write_eq_iff spaced_keyStyle rfl isJson otherJson).mpr reordered
    rw [written, otherWritten, Except.ok.injEq] at sameText
    rw [sameText]

/-- A document that ends like the front of the parameters of another call is not mistaken for them. -/
theorem cacheKey_bars : ∃ key otherKey,
    cacheKey (.str "<a/>") (.str "n") (.map [(.str "a", .str "|n|\x7b\x7d")]) = .ok key ∧
      cacheKey (.str "<a/>|n|\x7b\"a\": \"") (.str "n") (.map []) = .ok otherKey ∧ key ≠ otherKey := by
  have noBar : '|' ∉ "n".toList := by decide
  have isJson : IsJson (.map [(.str "a", .str "|n|\x7b\x7d")]) := by simp [Mapping.keys]
  obtain ⟨key, otherKey, isKey, isOtherKey, same⟩ := cacheKey_eq_iff noBar noBar isJson isJson_map_nil
  refine ⟨key, otherKey, isKey, isOtherKey, fun sameKey => ?_⟩
  exact absurd (same.mp sameKey).1 (by decide)

end StyleRules.Engine
