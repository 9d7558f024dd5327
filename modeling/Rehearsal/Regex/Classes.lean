/-
  Rehearsal.Regex.Classes
  ──────────────────────────────────────
  **Classes of characters that a pattern can name.**

    • `perl` — `\d`, `\s`, `\w`, over all of Unicode or over ASCII only,
    • `ascii?` — the names in `[:name:]`,
    • `unicode?` — the names in `\p{name}` and `\p{property=value}`: general
      categories, scripts and a few binary properties.  Case, spaces, hyphens and
      underscores of a name do not count, nor does `is` in front of it.
-/
import Rehearsal.Regex.CharSet
import Rehearsal.Unicode.Categories
import Rehearsal.Unicode.Properties
import Rehearsal.Unicode.Scripts

namespace Rehearsal.Regex

open Rehearsal.Unicode

namespace CharSet

/-! ## §1. Letters of escapes. -/

/-- Decimal digits. -/
def digit : CharSet := ⟨Category.decimalNumber⟩

/-- White space. -/
def space : CharSet :=
  ⟨[(9, 13), (0x20, 0x20), (0x85, 0x85), (0xA0, 0xA0), (0x1680, 0x1680), (0x2000, 0x200A),
    (0x2028, 0x2029), (0x202F, 0x202F), (0x205F, 0x205F), (0x3000, 0x3000)]⟩

/-- Word characters. -/
def word : CharSet := ⟨Property.word⟩

/-- ASCII digits. -/
def asciiDigit : CharSet := ⟨[(0x30, 0x39)]⟩

/-- ASCII white space. -/
def asciiSpace : CharSet := ⟨[(9, 13), (0x20, 0x20)]⟩

/-- ASCII word characters. -/
def asciiWord : CharSet := ⟨[(0x30, 0x39), (0x41, 0x5A), (0x5F, 0x5F), (0x61, 0x7A)]⟩

/-- Every character. -/
def all : CharSet := ⟨[(0, greatest)]⟩

/-! ## §2. Bracketed names. -/

/-- The class of a name in `[:name:]`. -/
def ascii? (name : Text) : Option CharSet :=
  let table : List (String × Ranges) :=
    [("alnum", [(0x30, 0x39), (0x41, 0x5A), (0x61, 0x7A)]),
     ("alpha", [(0x41, 0x5A), (0x61, 0x7A)]),
     ("ascii", [(0, 0x7F)]),
     ("blank", [(9, 9), (0x20, 0x20)]),
     ("cntrl", [(0, 0x1F), (0x7F, 0x7F)]),
     ("digit", [(0x30, 0x39)]),
     ("graph", [(0x21, 0x7E)]),
     ("lower", [(0x61, 0x7A)]),
     ("print", [(0x20, 0x7E)]),
     ("punct", [(0x21, 0x2F), (0x3A, 0x40), (0x5B, 0x60), (0x7B, 0x7E)]),
     ("space", [(9, 13), (0x20, 0x20)]),
     ("upper", [(0x41, 0x5A)]),
     ("word", [(0x30, 0x39), (0x41, 0x5A), (0x5F, 0x5F), (0x61, 0x7A)]),
     ("xdigit", [(0x30, 0x39), (0x41, 0x46), (0x61, 0x66)])]
  (table.find? (·.1.toList = name)).map fun entry => ⟨entry.2⟩

/-! ## §3. Unicode names. -/

/-- The ASCII letter in lower case. -/
def lowerAscii (c : Char) : Char :=
  if 'A' ≤ c ∧ c ≤ 'Z' then Char.ofNat (c.toNat + 32) else c

/-- The form of a name in which it is looked up. -/
def plainName (name : Text) : Text :=
  let kept := (name.filter fun c => !(Text.isBlank c || c == '_' || c == '-')).map lowerAscii
  match kept with
  | 'i' :: 's' :: rest => if rest = ['c'] then kept else rest
  | _ => kept

/-- General categories and groups of them, by every name they have. -/
def categories : List (List String × List Ranges) :=
  let lu := Category.uppercaseLetter
  let ll := Category.lowercaseLetter
  let lt := Category.titlecaseLetter
  let lm := Category.modifierLetter
  let lo := Category.otherLetter
  let mn := Category.nonspacingMark
  let mc := Category.spacingMark
  let me := Category.enclosingMark
  let nd := Category.decimalNumber
  let nl := Category.letterNumber
  let no := Category.otherNumber
  let pc := Category.connectorPunctuation
  let pd := Category.dashPunctuation
  let ps := Category.openPunctuation
  let pe := Category.closePunctuation
  let pi := Category.initialPunctuation
  let pf := Category.finalPunctuation
  let po := Category.otherPunctuation
  let sm := Category.mathSymbol
  let sc := Category.currencySymbol
  let sk := Category.modifierSymbol
  let so := Category.otherSymbol
  let zs := Category.spaceSeparator
  let zl := Category.lineSeparator
  let zp := Category.paragraphSeparator
  let cc := Category.control
  let cf := Category.format
  let co := Category.privateUse
  let cn := Category.unassigned
  [(["lu", "uppercaseletter"], [lu]), (["ll", "lowercaseletter"], [ll]),
   (["lt", "titlecaseletter"], [lt]), (["lc", "casedletter"], [lu, ll, lt]),
   (["lm", "modifierletter"], [lm]), (["lo", "otherletter"], [lo]),
   (["l", "letter"], [lu, ll, lt, lm, lo]),
   (["mn", "nonspacingmark"], [mn]), (["mc", "spacingmark"], [mc]),
   (["me", "enclosingmark"], [me]), (["m", "mark", "combiningmark"], [mn, mc, me]),
   (["nd", "decimalnumber", "digit"], [nd]), (["nl", "letternumber"], [nl]),
   (["no", "othernumber"], [no]), (["n", "number"], [nd, nl, no]),
   (["pc", "connectorpunctuation"], [pc]), (["pd", "dashpunctuation"], [pd]),
   (["ps", "openpunctuation"], [ps]), (["pe", "closepunctuation"], [pe]),
   (["pi", "initialpunctuation"], [pi]), (["pf", "finalpunctuation"], [pf]),
   (["po", "otherpunctuation"], [po]),
   (["p", "punctuation", "punct"], [pc, pd, ps, pe, pi, pf, po]),
   (["sm", "mathsymbol"], [sm]), (["sc", "currencysymbol"], [sc]),
   (["sk", "modifiersymbol"], [sk]), (["so", "othersymbol"], [so]),
   (["s", "symbol"], [sm, sc, sk, so]),
   (["zs", "spaceseparator"], [zs]), (["zl", "lineseparator"], [zl]),
   (["zp", "paragraphseparator"], [zp]), (["z", "separator"], [zs, zl, zp]),
   (["cc", "control", "cntrl"], [cc]), (["cf", "format"], [cf]),
   (["co", "privateuse"], [co]), (["cn", "unassigned"], [cn]), (["cs", "surrogate"], []),
   (["c", "other"], [cc, cf, co, cn]),
   (["any"], [[(0, greatest)]]), (["ascii"], [[(0, 0x7F)]])]

/-- Scripts, by every name they have. -/
def scripts : List (List String × Ranges) :=
  [(["latin", "latn"], Script.latin), (["greek", "grek"], Script.greek),
   (["cyrillic", "cyrl"], Script.cyrillic), (["armenian", "armn"], Script.armenian),
   (["hebrew", "hebr"], Script.hebrew), (["arabic", "arab"], Script.arabic),
   (["syriac", "syrc"], Script.syriac), (["devanagari", "deva"], Script.devanagari),
   (["bengali", "beng"], Script.bengali), (["tamil", "taml"], Script.tamil),
   (["thai"], Script.thai), (["lao", "laoo"], Script.lao), (["tibetan", "tibt"], Script.tibetan),
   (["georgian", "geor"], Script.georgian), (["hangul", "hang"], Script.hangul),
   (["ethiopic", "ethi"], Script.ethiopic), (["cherokee", "cher"], Script.cherokee),
   (["khmer", "khmr"], Script.khmer), (["mongolian", "mong"], Script.mongolian),
   (["hiragana", "hira"], Script.hiragana), (["katakana", "kana"], Script.katakana),
   (["bopomofo", "bopo"], Script.bopomofo), (["han", "hani"], Script.han),
   (["common", "zyyy"], Script.common), (["inherited", "zinh", "qaai"], Script.inherited)]

/-- Binary properties, by every name they have. -/
def properties : List (List String × Ranges) :=
  [(["alphabetic", "alpha"], Property.alphabetic), (["lowercase", "lower"], Property.lowercase),
   (["uppercase", "upper"], Property.uppercase), (["whitespace", "space", "wspace"], space.ranges),
   (["graphemeextend", "grext"], Property.graphemeExtend),
   (["defaultignorablecodepoint", "di"], Property.defaultIgnorable),
   (["emoji"], Property.emoji)]

/-- The category of a name; `assigned` is every code point that has one. -/
def category? (name : Text) : Option CharSet :=
  if name = ("assigned" : Text) then some (complement ⟨Category.unassigned⟩)
  else (categories.find? (·.1.any (·.toList = name))).map fun e => ofRanges e.2.flatten

/-- The script of a name. -/
def script? (name : Text) : Option CharSet :=
  (scripts.find? (·.1.any (·.toList = name))).map fun e => ⟨e.2⟩

/-- The property of a name. -/
def property? (name : Text) : Option CharSet :=
  (properties.find? (·.1.any (·.toList = name))).map fun e => ⟨e.2⟩

/-- The class of a name in `\p{name}`: a property, a category or a script. -/
def unicode? (name : Text) : Option CharSet :=
  let name := plainName name
  (property? name).or ((category? name).or (script? name))

/-- The class of `\p{property=value}`. -/
def unicodeValue? (property value : Text) : Option CharSet :=
  let property := plainName property
  let value := plainName value
  if property = ("gc" : Text) ∨ property = ("generalcategory" : Text) then category? value
  else if property = ("sc" : Text) ∨ property = ("script" : Text)
      ∨ property = ("scx" : Text) ∨ property = ("scriptextensions" : Text) then script? value
  else none

end CharSet

end Rehearsal.Regex
