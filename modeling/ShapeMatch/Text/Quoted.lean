import ShapeMatch.Text.Printable

/-! Quoted text and byte strings, as they appear in messages. The quote is an apostrophe,
unless the content has an apostrophe and no double quote. A backslash and the quote itself
take a backslash before them, and what has no graphic form becomes an escape. -/
namespace ShapeMatch.Text

/-- The mark to put around content. -/
def quoteFor (content : List Char) : Char :=
  if content.contains '\'' && !content.contains '"' then '"' else '\''

/-- `n` in hexadecimal, with zeros in front up to `width` digits. -/
def hexPadded (width n : Nat) : List Char :=
  let digits := Nat.toDigits 16 n
  List.replicate (width - digits.length) '0' ++ digits

/-- A code point as a numeric escape of two, four or eight digits. -/
def numericEscape (code : Nat) : List Char :=
  if code < 0x100 then '\\' :: 'x' :: hexPadded 2 code
  else if code < 0x10000 then '\\' :: 'u' :: hexPadded 4 code
  else '\\' :: 'U' :: hexPadded 8 code

/-- How a character is written between two marks, where `isPlain` tells the ones that
stand for themselves. -/
def escaped (isPlain : Char → Bool) (mark c : Char) : List Char :=
  if c = mark || c = '\\' then ['\\', c]
  else if c = '\n' then ['\\', 'n']
  else if c = '\r' then ['\\', 'r']
  else if c = '\t' then ['\\', 't']
  else if isPlain c then [c]
  else numericEscape c.toNat

/-- Content between marks. -/
def enclosed (isPlain : Char → Bool) (content : List Char) : List Char :=
  let mark := quoteFor content
  mark :: content.flatMap (escaped isPlain mark) ++ [mark]

/-- A text in quotes. -/
def quoted (s : String) : String := .ofList (enclosed isPrintable s.toList)

/-- A byte string in quotes: a byte counts as the character with its number, and only the
graphic ones among the first 128 stand for themselves. -/
def quotedBytes (bytes : List UInt8) : String :=
  .ofList ('b' :: enclosed (fun c => 0x20 ≤ c.toNat && c.toNat < 0x7F)
    (bytes.map fun b => Char.ofNat b.toNat))

end ShapeMatch.Text
