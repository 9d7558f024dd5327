/-
  Rehearsal.Text.Width
  ──────────────────────────────────────
  **How many terminal columns a text takes.**

  A character takes no column, one, two or (one Khmer sign) three.  Some
  sequences take fewer columns than their parts: a carriage return before a
  newline, emoji sequences, and the ligatures of a few scripts.  Such a sequence
  is recognised from its end, so the columns are summed from the last
  character to the first, with a `Next` that says what the character at hand
  stands in front of.
-/
import Rehearsal.Unicode.WidthClasses

namespace Rehearsal.Text

open Rehearsal.Unicode

/-! ## §1. What a character stands in front of. -/

/-- The start of what follows, as far as it can change a width. -/
inductive NextKind where
  | plain
  | lineFeed
  | emojiModifier
  | regionalIndicator
  | regionalIndicators
  | emoji
  | zwjEmoji
  | keycapZwjEmoji
  | regionalZwjEmoji
  | evenRegionalZwjEmoji
  | oddRegionalZwjEmoji
  | tagEnd
  | tagDigits (count : Nat)
  | tagLetters (count : Nat)
  | alef
  | lamed
  | zwjLamed
  | bugineseYa
  | zwjBugineseYa
  | bugineseIZwjYa
  | tifinagh
  | zwjTifinagh
  | joinerTifinagh
  | lisuLowTone
  | orkhonI
  | zwjOrkhonI
  | khmerLetter
  | kiratRaiE
  | kiratRaiAi
  deriving DecidableEq, Repr

namespace NextKind

/-- Kinds that keep what they are behind a variation selector. -/
def keepsSelector : NextKind → Bool
  | alef | lamed | zwjLamed | bugineseYa | zwjBugineseYa | bugineseIZwjYa | tifinagh
  | zwjTifinagh | joinerTifinagh | lisuLowTone | orkhonI | zwjOrkhonI | khmerLetter => true
  | _ => false

/-- Kinds that an ignorable mark or a joiner in front does not end. -/
def lettersOfLigature (k : NextKind) : Bool := k.keepsSelector && k != alef

/-- The kind behind a zero width joiner. -/
def joined : NextKind → NextKind
  | lamed => zwjLamed
  | bugineseYa => zwjBugineseYa
  | tifinagh => zwjTifinagh
  | orkhonI => zwjOrkhonI
  | k => k

end NextKind

/-- What follows a character: a kind, and whether an emoji or a text variation
selector stands directly in front of it. -/
structure Next where
  kind : NextKind := .plain
  emojiSelector : Bool := false
  textSelector : Bool := false
  deriving DecidableEq, Repr

namespace Next

/-- Nothing that changes a width. -/
def plain : Next := {}

/-- A kind without a selector. -/
def of (k : NextKind) : Next := { kind := k }

/-- The emoji variation selector put in front. -/
def behindEmojiSelector (n : Next) : Next :=
  if n.kind.keepsSelector then { n with emojiSelector := true }
  else if n.kind = .zwjEmoji || n.kind = .keycapZwjEmoji then
    { kind := n.kind, emojiSelector := true }
  else { emojiSelector := true }

/-- The text variation selector put in front. -/
def behindTextSelector (n : Next) : Next :=
  if n.kind.keepsSelector then { n with textSelector := true } else { textSelector := true }

/-- The selector turned out to select nothing. -/
def withoutEmojiSelector (n : Next) : Next :=
  if n.kind.keepsSelector then { n with emojiSelector := false } else plain

/-- The selector turned out to select nothing. -/
def withoutTextSelector (n : Next) : Next :=
  if n.kind.keepsSelector then { n with textSelector := false } else plain

end Next

/-! ## §2. One character on its own. -/

/-- Regional indicators, two of which make a flag. -/
def isRegionalIndicator (n : Nat) : Bool := 0x1F1E6 ≤ n && n ≤ 0x1F1FF

/-- Tifinagh consonants. -/
def isTifinaghConsonant (n : Nat) : Bool := (0x2D31 ≤ n && n ≤ 0x2D65) || n == 0x2D6F

/-- Khmer letters that have a subscript form. -/
def isKhmerSubscript (n : Nat) : Bool :=
  (0x1780 ≤ n && n ≤ 0x1782) || (0x1784 ≤ n && n ≤ 0x1787) || (0x1789 ≤ n && n ≤ 0x178C)
    || (0x178E ≤ n && n ≤ 0x1793) || (0x1795 ≤ n && n ≤ 0x1798)
    || (0x179B ≤ n && n ≤ 0x179D) || n == 0x17A0 || n == 0x17A2 || n == 0x17A7
    || n == 0x17AB || n == 0x17AC || n == 0x17AF

/-- Columns of a character that no neighbour changes. -/
def ownWidth (n : Nat) : Int :=
  if n == 0x115F || n == 0x17A4 then 2
  else if n == 0x17D8 then 3
  else if Ranges.mem n WidthClass.zero then 0
  else if Ranges.mem n WidthClass.wide then 2
  else 1

/-- What a character is for the one in front of it. -/
def ownKind (n : Nat) : NextKind :=
  if isRegionalIndicator n then .regionalIndicator
  else if 0x1F3FB ≤ n && n ≤ 0x1F3FF then .emojiModifier
  else if Ranges.mem n WidthClass.emojiPresentation then .emoji
  else if Ranges.mem n WidthClass.alef then .alef
  else if n == 0x5DC then .lamed
  else if n == 0x1A10 then .bugineseYa
  else if isTifinaghConsonant n then .tifinagh
  else if n == 0xA4FC || n == 0xA4FD then .lisuLowTone
  else if n == 0x10C03 then .orkhonI
  else if isKhmerSubscript n then .khmerLetter
  else if n == 0x16D67 then .kiratRaiE
  else if n == 0x16D68 then .kiratRaiAi
  else .plain

/-- Columns and kind of a character that joins nothing behind it. -/
def alone (n : Nat) : Int × Next :=
  if n == 0xFE0F then (0, { emojiSelector := true })
  else if n == 0xFE0E then (0, { textSelector := true })
  else (ownWidth n, Next.of (ownKind n))

/-! ## §3. One character in front of others. -/

/-- The sequences that change a width: columns and kind of the character `n`
in front of `k`, if the two belong together. -/
def sequence? (n : Nat) (k : NextKind) : Option (Int × Next) :=
  let tagLetter := 0xE0061 ≤ n && n ≤ 0xE007A
  let tagDigit := 0xE0030 ≤ n && n ≤ 0xE0039
  let some' (w : Int) (k : NextKind) : Option (Int × Next) := some (w, Next.of k)
  match k with
  | .alef =>
      if Ranges.mem n WidthClass.lam then some' 0 .plain
      else if Ranges.mem n WidthClass.transparentZero then some' 0 .alef else none
  | .zwjLamed => if n == 0x5D0 then some' 0 .plain else none
  | .khmerLetter => if n == 0x17D2 then some' (-1) .plain else none
  | .zwjBugineseYa => if n == 0x1A17 then some' 0 .bugineseIZwjYa else none
  | .bugineseIZwjYa => if n == 0x1A15 then some' 0 .plain else none
  | .tifinagh => if n == 0x2D7F then some' 1 .joinerTifinagh else none
  | .zwjTifinagh =>
      if n == 0x2D7F then some' 1 .joinerTifinagh
      else if isTifinaghConsonant n then some' 0 .plain else none
  | .joinerTifinagh => if isTifinaghConsonant n then some' (-1) .plain else none
  | .lisuLowTone => if 0xA4F8 ≤ n && n ≤ 0xA4FB then some' 0 .plain else none
  | .zwjOrkhonI => if n == 0x10C32 then some' 0 .plain else none
  | .kiratRaiE =>
      if n == 0x16D63 then some' 0 .plain
      else if n == 0x16D67 then some' 0 .kiratRaiAi
      else if n == 0x16D68 then some' 1 .kiratRaiE
      else if n == 0x16D69 then some' 0 .plain else none
  | .kiratRaiAi => if n == 0x16D63 then some' 0 .plain else none
  | .emojiModifier =>
      if Ranges.mem n WidthClass.modifierBase then some' 0 .emoji
      else if n == 0x200D then some' 0 .zwjEmoji else none
  | .regionalIndicator =>
      -- Two indicators make a flag: one column each.
      if isRegionalIndicator n then some' 1 .regionalIndicators else none
  | .regionalIndicators =>
      if isRegionalIndicator n then some' 1 .regionalIndicators
      else if n == 0x200D then some' 0 .zwjEmoji else none
  | .emoji => if n == 0x200D then some' 0 .zwjEmoji else none
  | .evenRegionalZwjEmoji =>
      if n == 0x200D then some' 0 .zwjEmoji
      else if isRegionalIndicator n then some' 3 .oddRegionalZwjEmoji else none
  | .oddRegionalZwjEmoji =>
      if n == 0x200D then some' 0 .zwjEmoji
      else if isRegionalIndicator n then some' (-1) .evenRegionalZwjEmoji else none
  | .regionalZwjEmoji =>
      if isRegionalIndicator n then some' (-1) .evenRegionalZwjEmoji else none
  | .zwjEmoji =>
      if n == 0x20E3 then some' 0 .keycapZwjEmoji
      else if isRegionalIndicator n then some' 1 .regionalZwjEmoji
      else if 0x1F3FB ≤ n && n ≤ 0x1F3FF then some' 0 .emojiModifier
      else if n == 0xE007F then some' 0 .tagEnd
      else if ownKind n = .emoji then some' 0 .emoji else none
  | .tagEnd =>
      if tagLetter then some' 0 (.tagLetters 1)
      else if tagDigit then some' 0 (.tagDigits 1) else none
  | .tagLetters count =>
      if tagLetter && count < 6 then some' 0 (.tagLetters (count + 1))
      else if tagDigit && count < 5 then some' 0 (.tagDigits 1)
      -- The sequence is joined to the emoji behind it, so the flag adds no columns.
      else if n == 0x1F3F4 && 3 ≤ count then some' 0 .emoji else none
  | .tagDigits count =>
      if tagDigit && count < 3 then some' 0 (.tagDigits (count + 1))
      else if n == 0x1F3F4 && count == 3 then some' 0 .emoji else none
  | _ => none

/-- Columns and kind of a character above `U+00A0` in front of `next`. -/
def joinedWidth (n : Nat) (next : Next) : Int × Next :=
  -- Most characters stand in front of nothing special.
  if next = Next.plain then alone n
  else if n == 0xFE0F then (0, next.behindEmojiSelector)
  else if n == 0xFE0E then (0, next.behindTextSelector)
  else if next.textSelector && Ranges.mem n WidthClass.startsTextVariation then (1, Next.plain)
  else
    -- The selector belongs to no character that it could change.
    let next := if next.textSelector then next.withoutTextSelector else next
    if next.kind.lettersOfLigature && n == 0x200D then (0, { next with kind := next.kind.joined })
    else if next.kind.lettersOfLigature && Ranges.mem n WidthClass.ligatureTransparent then
      (0, next)
    else
      (sequence? n next.kind).getD (alone n)

/-- Columns and kind of a character in front of `next`. -/
def widthBefore (c : Char) (next : Next) : Int × Next :=
  let n := c.toNat
  if next.emojiSelector && Ranges.mem n WidthClass.startsEmojiVariation then
    (if next.kind = .zwjEmoji || next.kind = .keycapZwjEmoji then 0 else 2, Next.of .emoji)
  else
    -- As above, for the emoji selector.
    let next := if next.emojiSelector then next.withoutEmojiSelector else next
    if n ≤ 0xA0 then
      if c = '\n' then (1, Next.of .lineFeed)
      else if c = '\r' && next = Next.of .lineFeed then (0, Next.plain)
      else (1, Next.plain)
    else joinedWidth n next

/-! ## §4. Whole texts. -/

/-- Columns of a text, and what its first character is for one in front. -/
def widthAndKind : Text → Int × Next
  | [] => (0, Next.plain)
  | c :: t =>
      let (sum, next) := widthAndKind t
      let (add, here) := widthBefore c next
      (sum + add, here)

/-- The number of columns a text takes. -/
def width (t : Text) : Nat := (widthAndKind t).1.toNat

end Rehearsal.Text
