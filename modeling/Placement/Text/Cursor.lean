import Placement.Text.Basic
import Placement.Text.CellWidth

/-!
The place on an output line at which the next character stands, in cells, as the library that prints
to a terminal is assumed to count them. Characters are not counted alone: a joiner draws the next one
into the one before it, the emoji selector asks for the wide form of the character before it, and a tab
reaches to the next stop.
-/

namespace Placement.Text

def joiner : Char :=
  '\u200d'

def emojiSelector : Char :=
  '\ufe0f'

def tabWidth : Nat :=
  8

/-- The base is what an emoji selector would turn into an emoji: the last character with cells of
its own, unless a selector, a tab or a line break followed it. -/
structure Cursor where
  cell : Nat
  base : Option Char
  joins : Bool
  deriving DecidableEq, Repr

namespace Cursor

def start : Cursor :=
  ⟨0, none, false⟩

def afterBlank (cursor : Cursor) : Nat :=
  if cursor.joins then cursor.cell else cursor.cell + 1

def tabGap (cursor : Cursor) : Nat :=
  (tabWidth - cursor.afterBlank % tabWidth) % tabWidth

def advance (cursor : Cursor) (c : Char) : Cursor :=
  if c = '\n' then start
  else if c = '\t' then { start with cell := cursor.afterBlank + cursor.tabGap }
  else if cursor.joins then { cursor with joins := false }
  else if c = joiner then { cursor with joins := true }
  else if c = emojiSelector then
    ⟨cursor.cell + (cursor.base.filter hasEmojiForm).toList.length, none, false⟩
  else if cellWidth c = 0 then cursor
  else ⟨cursor.cell + cellWidth c, some c, false⟩

def shown (cursor : Cursor) (c : Char) : Text :=
  if c = '\t' then spaces (cursor.tabGap + 1) else [c]

theorem advance_ascii (cursor : Cursor) (c : Char) (free : cursor.joins = false)
    (low : 0x20 ≤ c.toNat) (high : c.toNat < 0x7F) :
    cursor.advance c = ⟨cursor.cell + 1, some c, false⟩ := by
  have newline : c ≠ '\n' := by rintro rfl; simp at low
  have tab : c ≠ '\t' := by rintro rfl; simp at low
  have join : c ≠ joiner := by rintro rfl; simp [joiner] at high
  have selector : c ≠ emojiSelector := by rintro rfl; simp [emojiSelector] at high
  simp [advance, newline, tab, join, selector, free, cellWidth_ascii c low high]

end Cursor

end Placement.Text
