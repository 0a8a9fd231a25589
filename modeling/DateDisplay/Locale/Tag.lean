import DateDisplay.Text.Blank
import DateDisplay.Text.DecimalDigit

/-!
# Locale tags

Locales are asked for in many spellings: `de`, `en-us`, `zh-Hans-CN`,
`sr_RS@latin`.  `LocaleTag` is what those spellings share, and `candidates` lists
the spellings under which a locale may be known.
-/

namespace DateDisplay

/-- The language of a locale, and its region where the tag names one. -/
structure LocaleTag where
  language : Text
  region : Option Text
  deriving DecidableEq, Repr

namespace LocaleTag

/-- The first `count` characters of a text and what follows, if they are all
there and all in the class. -/
def block? (count : Nat) (inClass : Char → Bool) (text : Text) : Option (Text × Text) :=
  let head := text.take count
  if head.length = count ∧ head.all inClass then some (head, text.drop count) else none

/-- A hyphen or underscore, and then a block. -/
def part? (count : Nat) (inClass : Char → Bool) : Text → Option (Text × Text)
  | joint :: rest => if joint = '-' ∨ joint = '_' then block? count inClass rest else none
  | [] => none

/-- What follows the script, four letters, if there is one. -/
def afterScript (text : Text) : Text :=
  match part? 4 Char.isAlpha text with
  | some (_, rest) => rest
  | none => text

/-- The region, two letters or three digits, if there is one, and what follows. -/
def region? (text : Text) : Option Text × Text :=
  match (part? 2 Char.isAlpha text).or (part? 3 Text.isDecimalDigit text) with
  | some (region, rest) => (some region, rest)
  | none => (none, text)

/-- Whether a text is empty, or a codeset or modifier on one line. -/
def isSuffix : Text → Bool
  | [] => true
  | mark :: rest => (mark == '.' || mark == '@') && rest.all (· != '\n')

/-- Read a tag: a language of two or three letters, an optional script, an
optional region and an optional codeset or modifier. -/
def ofText? (text : Text) : Option LocaleTag :=
  let language := text.takeWhile Char.isAlpha
  let (region, rest) := region? (afterScript (text.drop language.length))
  if (language.length = 2 ∨ language.length = 3) ∧ isSuffix rest = true then
    some ⟨language, region⟩
  else none

/-- The language in lower case. -/
def lowerLanguage (tag : LocaleTag) : Text :=
  tag.language.map Char.toLower

/-- The region in upper case; without one, the language in upper case. -/
def upperRegion (tag : LocaleTag) : Text :=
  (tag.region.getD tag.language).map Char.toUpper

/-- Language and region as the names of locales spell them. -/
def name (tag : LocaleTag) : Text :=
  tag.lowerLanguage ++ '_' :: tag.upperRegion

/-- The spellings under which a locale may be known, the one given first. -/
def candidates (text : Text) : List Text :=
  let text := Text.trim text
  match ofText? text with
  | some tag => [text, tag.name, tag.lowerLanguage].eraseDups
  | none => [text]

end LocaleTag

end DateDisplay
