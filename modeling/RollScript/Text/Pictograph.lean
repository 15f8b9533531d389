import RollScript.Text.CodePoint
import RollScript.Text.PictographTable

/-!
# Pictographs by name

A name between two colons stands for a pictograph. `Pictograph.replaceNames` puts the pictographs of a
text in the places of their names. Capital letters count as small ones; `-text` or `-emoji` after the
name chooses how the pictograph is drawn. A name that is not known stays as it is, with both colons.
-/

namespace RollScript.Pictograph

/-- The small letter of a capital one, among the letters that occur in names. -/
def lower (c : CodePoint) : CodePoint :=
  let n := c.toNat
  if (0x41 ≤ n && n ≤ 0x5A) || (0xC0 ≤ n && n ≤ 0xDE && n != 0xD7) then .ofNat (n + 0x20)
  else if n == 0x212A then .scalar 'k'
  else if n == 0x212B then .scalar 'å'
  else c

/-- The code point that hexadecimal digits write. -/
def codePoint (digits : String) : CodePoint :=
  .ofNat (digits.toList.foldl (fun n c => 16 * n + ((CodePoint.scalar c).hexDigit?).getD 0) 0)

/-- The entries of the table of names. -/
def entries : List String :=
  (pictographTable.splitOn "\n").flatMap (·.splitOn " ")

/-- The pictograph of a name in small letters. -/
def find? (name : Text) : Option Text :=
  entries.findSome? fun entry =>
    match entry.splitOn "=" with
    | [known, codes] =>
      if Text.ofString known = name then some ((codes.splitOn "-").map codePoint) else none
    | _ => none

/-- The end of a name: how many code points it takes, with the closing colon, and the code point that
chooses how the pictograph is drawn. -/
def ending? (t : Text) : Option (Nat × Text) :=
  if t.take 7 = Text.ofString "-emoji:" then some (7, [.ofNat 0xFE0F])
  else if t.take 6 = Text.ofString "-text:" then some (6, [.ofNat 0xFE0E])
  else if t.head? = some (.scalar ':') then some (1, [])
  else none

/-- A name at the front of a text, up to the nearest ending without a blank before it: the length of the
name, that of its ending, and what the ending chooses. -/
def name? : Text → Option (Nat × Nat × Text)
  | [] => none
  | c :: rest =>
    match ending? (c :: rest) with
    | some (length, choice) => some (0, length, choice)
    | none =>
      if c.isSpace then none
      else (name? rest).map fun (length, closing) => (length + 1, closing)

/-- What stands for a name with its two colons. -/
def picture (rest : Text) (length closing : Nat) (choice : Text) : Text :=
  match find? ((rest.take length).map lower) with
  | some found => found ++ choice
  | none => .scalar ':' :: rest.take (length + closing)

/-- A text with the pictographs in the places of their names. -/
def replaceNames : Text → Text
  | [] => []
  | c :: rest =>
    if c = .scalar ':' then
      match name? rest with
      | some (length, closing, choice) =>
        picture rest length closing choice ++ replaceNames (rest.drop (length + closing))
      | none => c :: replaceNames rest
    else c :: replaceNames rest
termination_by t => t.length
decreasing_by
  · rw [List.length_drop, List.length_cons]
    omega
  · rw [List.length_cons]
    omega
  · rw [List.length_cons]
    omega

end RollScript.Pictograph
