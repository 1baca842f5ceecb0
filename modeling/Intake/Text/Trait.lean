import Intake.Text.Casing
import Intake.Text.Category
import Intake.Text.Trait.Table
import Intake.Text.WordTable

/-!
# Properties of characters

What a character has or has not. Many of these properties are made of categories, with some
characters more and some less.

* `Trait.named?`: the characters with a property by one of its names, which are in small letters
  here and without separators.
-/

namespace Intake.Text

/-- A property that a character has or has not. -/
inductive Trait where
  | alphabetic | asciiHexDigit | bidiControl | bidiMirrored | caseIgnorable | cased
  | changesWhenCasefolded | changesWhenCasemapped | changesWhenLowercased
  | changesWhenTitlecased | changesWhenUppercased | dash | defaultIgnorable | deprecated
  | diacritic | emoji | emojiComponent | emojiModifier | emojiModifierBase | emojiPresentation
  | extendedPictographic | extender | graphemeBase | graphemeExtend | hexDigit | idContinue
  | idStart | ideographic | idsBinaryOperator | idsTrinaryOperator | idsUnaryOperator
  | joinControl | logicalOrderException | lowercase | math | noncharacter | patternSyntax
  | patternWhiteSpace | quotationMark | radical | regionalIndicator | sentenceTerminal
  | softDotted | terminalPunctuation | unifiedIdeograph | uppercase | variationSelector
  | whiteSpace | xidContinue | xidStart
deriving DecidableEq, Repr

namespace Trait

/-- The properties by their names. -/
def names : List (List String × Trait) :=
  [(["alpha", "alphabetic"], alphabetic), (["ahex", "asciihexdigit"], asciiHexDigit),
    (["bidic", "bidicontrol"], bidiControl), (["bidim", "bidimirrored"], bidiMirrored),
    (["ci", "caseignorable"], caseIgnorable), (["cased"], cased),
    (["cwcf", "changeswhencasefolded"], changesWhenCasefolded),
    (["cwcm", "changeswhencasemapped"], changesWhenCasemapped),
    (["cwl", "changeswhenlowercased"], changesWhenLowercased),
    (["cwt", "changeswhentitlecased"], changesWhenTitlecased),
    (["cwu", "changeswhenuppercased"], changesWhenUppercased), (["dash"], dash),
    (["di", "defaultignorablecodepoint"], defaultIgnorable), (["dep", "deprecated"], deprecated),
    (["dia", "diacritic"], diacritic), (["emoji"], emoji),
    (["ecomp", "emojicomponent"], emojiComponent), (["emod", "emojimodifier"], emojiModifier),
    (["ebase", "emojimodifierbase"], emojiModifierBase),
    (["epres", "emojipresentation"], emojiPresentation),
    (["extpict", "extendedpictographic"], extendedPictographic), (["ext", "extender"], extender),
    (["grbase", "graphemebase"], graphemeBase), (["grext", "graphemeextend"], graphemeExtend),
    (["hex", "hexdigit"], hexDigit), (["idc", "idcontinue"], idContinue),
    (["ids", "idstart"], idStart), (["ideo", "ideographic"], ideographic),
    (["idsb", "idsbinaryoperator"], idsBinaryOperator),
    (["idst", "idstrinaryoperator"], idsTrinaryOperator),
    (["idsu", "idsunaryoperator"], idsUnaryOperator), (["joinc", "joincontrol"], joinControl),
    (["loe", "logicalorderexception"], logicalOrderException), (["lower", "lowercase"], lowercase),
    (["math"], math), (["nchar", "noncharactercodepoint"], noncharacter),
    (["patsyn", "patternsyntax"], patternSyntax), (["patws", "patternwhitespace"], patternWhiteSpace),
    (["qmark", "quotationmark"], quotationMark), (["radical"], radical),
    (["ri", "regionalindicator"], regionalIndicator), (["sterm", "sentenceterminal"], sentenceTerminal),
    (["sd", "softdotted"], softDotted), (["term", "terminalpunctuation"], terminalPunctuation),
    (["uideo", "unifiedideograph"], unifiedIdeograph), (["upper", "uppercase"], uppercase),
    (["vs", "variationselector"], variationSelector), (["wspace", "whitespace", "space"], whiteSpace),
    (["xidc", "xidcontinue"], xidContinue), (["xids", "xidstart"], xidStart)]

/-- The code points that runs change. -/
def changedBy (runs : List Casing.Run) : List (Nat × Nat) :=
  (runs.flatMap Casing.Run.pairs).map fun p => (p.1, p.1)

/-- Letters that change when they are put in lower case. -/
def lowered : CodeSet :=
  (CodeSet.ofRanges ((0x130, 0x130) :: changedBy Casing.lowerRuns)).diff ⟨recentRanges⟩

/-- Letters that change when they are put in upper case. -/
def raised : CodeSet :=
  let expanded := Casing.upperExpansions.map fun e => (e.1, e.1)
  (CodeSet.ofRanges (expanded ++ changedBy Casing.upperRuns)).diff ⟨recentRanges⟩

/-- The characters of some categories and some more. -/
def among (categories : List Category) (more : List (Nat × Nat)) : CodeSet :=
  CodeSet.ofRanges (more ++ categories.flatMap Category.ranges)

/-- Small letters and what counts as such. -/
def small : CodeSet :=
  among [.ll] smallForms

/-- Capital letters and what counts as such. -/
def capital : CodeSet :=
  among [.lu] capitalForms

/-- Characters that are part of what comes before them. -/
def extending : CodeSet :=
  among [.mn, .me] graphemeExtenders

/-- Characters that names may start with. -/
def startsName : CodeSet :=
  (among [.lu, .ll, .lt, .lm, .lo, .nl] nameStarts).diff (.single '\u2e2f')

/-- Characters that may stand in names. -/
def inName : CodeSet :=
  startsName.union (among [.mn, .mc, .nd, .pc] nameParts)

/-- The characters with a property. -/
def set : Trait → CodeSet
  | alphabetic => (CodeSet.mk letterRanges).diff ⟨recentRanges⟩
  | asciiHexDigit => ⟨[(0x30, 0x39), (0x41, 0x46), (0x61, 0x66)]⟩
  | bidiControl => ⟨bidiControls⟩
  | bidiMirrored => ⟨mirrored⟩
  | caseIgnorable => (CodeSet.mk Casing.ignorableRanges).diff ⟨recentRanges⟩
  | cased => (small.union capital).union (Category.set [.lt])
  | changesWhenCasefolded => (lowered.diff (.between '\u13a0' '\u13f5')).union ⟨foldable⟩
  | changesWhenCasemapped => lowered.union raised
  | changesWhenLowercased => lowered
  | changesWhenTitlecased =>
    (raised.diff ⟨titleForms⟩).union
      ⟨[(0x1C4, 0x1C4), (0x1C7, 0x1C7), (0x1CA, 0x1CA), (0x1F1, 0x1F1)]⟩
  | changesWhenUppercased => raised
  | dash => among [.pd] dashes
  | defaultIgnorable => ⟨ignorables⟩
  | deprecated => ⟨deprecatedRanges⟩
  | diacritic => ⟨diacritics⟩
  | emoji => ⟨emojis⟩
  | emojiComponent => ⟨emojiComponents⟩
  | emojiModifier => ⟨[(0x1F3FB, 0x1F3FF)]⟩
  | emojiModifierBase => ⟨emojiBases⟩
  | emojiPresentation => ⟨emojiPictures⟩
  | extendedPictographic => ⟨pictographs⟩
  | extender => ⟨extenders⟩
  | graphemeBase => (Category.assigned.diff (Category.set [.cc, .cf, .co, .zl, .zp])).diff extending
  | graphemeExtend => extending
  | hexDigit => ⟨hexDigits⟩
  | idContinue => inName
  | idStart => startsName
  | ideographic => ⟨ideographs⟩
  | idsBinaryOperator => ⟨[(0x2FF0, 0x2FF1), (0x2FF4, 0x2FFD), (0x31EF, 0x31EF)]⟩
  | idsTrinaryOperator => ⟨[(0x2FF2, 0x2FF3)]⟩
  | idsUnaryOperator => ⟨[(0x2FFE, 0x2FFF)]⟩
  | joinControl => ⟨[(0x200C, 0x200D)]⟩
  | logicalOrderException => ⟨logicalExceptions⟩
  | lowercase => small
  | math => among [.sm] mathSigns
  | noncharacter => ⟨noncharacters⟩
  | patternSyntax => ⟨patternSigns⟩
  | patternWhiteSpace =>
    ⟨[(9, 0xD), (0x20, 0x20), (0x85, 0x85), (0x200E, 0x200F), (0x2028, 0x2029)]⟩
  | quotationMark => ⟨quotes⟩
  | radical => ⟨[(0x2E80, 0x2E99), (0x2E9B, 0x2EF3), (0x2F00, 0x2FD5)]⟩
  | regionalIndicator => ⟨[(0x1F1E6, 0x1F1FF)]⟩
  | sentenceTerminal => ⟨sentenceEnds⟩
  | softDotted => ⟨dotted⟩
  | terminalPunctuation => (CodeSet.mk sentenceEnds).union ⟨phraseEnds⟩
  | unifiedIdeograph => ⟨unifiedIdeographs⟩
  | uppercase => capital
  | variationSelector =>
    ⟨[(0x180B, 0x180D), (0x180F, 0x180F), (0xFE00, 0xFE0F), (0xE0100, 0xE01EF)]⟩
  | whiteSpace =>
    ⟨[(9, 13), (0x20, 0x20), (0x85, 0x85), (0xA0, 0xA0), (0x1680, 0x1680), (0x2000, 0x200A),
      (0x2028, 0x2029), (0x202F, 0x202F), (0x205F, 0x205F), (0x3000, 0x3000)]⟩
  | xidContinue => inName.diff ⟨unstableParts⟩
  | xidStart => startsName.diff ⟨unstableStarts⟩

/-- The characters with the property of this name. -/
def named? (name : String) : Option CodeSet :=
  (names.find? fun n => n.1.contains name).map fun n => n.2.set

end Trait

end Intake.Text
