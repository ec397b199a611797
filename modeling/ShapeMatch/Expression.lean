import ShapeMatch.Text.Quoted

/-! Compiled expressions: a pattern text with flags. A pattern of a schema has its flags only
inside its text, so a leading group carries them over. -/
namespace ShapeMatch

/-- The flags of a compiled expression. The one for Unicode has no effect on a text and is
left out. -/
structure Flags where
  ignoreCase : Bool := false
  multiline : Bool := false
  dotAll : Bool := false
  verbose : Bool := false
  ascii : Bool := false
  /-- letters as the surroundings define them, in patterns over bytes -/
  locale : Bool := false
  template : Bool := false
  debug : Bool := false
  deriving DecidableEq

namespace Flags

def union (a b : Flags) : Flags where
  ignoreCase := a.ignoreCase || b.ignoreCase
  multiline := a.multiline || b.multiline
  dotAll := a.dotAll || b.dotAll
  verbose := a.verbose || b.verbose
  ascii := a.ascii || b.ascii
  locale := a.locale || b.locale
  template := a.template || b.template
  debug := a.debug || b.debug

/-- The flag of a letter in a group of flags, if it is one. -/
def ofLetter? : Char → Option Flags
  | 'i' => some { ignoreCase := true }
  | 'm' => some { multiline := true }
  | 's' => some { dotAll := true }
  | 'x' => some { verbose := true }
  | 'a' => some { ascii := true }
  | 'L' => some { locale := true }
  | 't' => some { template := true }
  | 'u' => some {}
  | _ => none

/-- The flags of a run of letters. -/
def ofLetters (letters : List Char) : Flags :=
  letters.foldl (fun f c => f.union ((ofLetter? c).getD {})) {}

/-- The letters of the flags that the search engine knows. -/
def inlineLetters (f : Flags) : List Char :=
  (if f.ignoreCase then ['i'] else []) ++ (if f.multiline then ['m'] else []) ++
    (if f.dotAll then ['s'] else [])

/-- The names of the flags that the search engine does not know. -/
def unsupported (f : Flags) : List String :=
  (if f.ascii then ["re.ASCII"] else []) ++ (if f.locale then ["re.LOCALE"] else []) ++
    (if f.verbose then ["re.VERBOSE"] else []) ++ (if f.template then ["re.TEMPLATE"] else []) ++
    (if f.debug then ["re.DEBUG"] else [])

/-- The names of all flags. -/
def names (f : Flags) : List String :=
  (if f.template then ["re.TEMPLATE"] else []) ++
    (if f.ignoreCase then ["re.IGNORECASE"] else []) ++ (if f.locale then ["re.LOCALE"] else []) ++
    (if f.multiline then ["re.MULTILINE"] else []) ++ (if f.dotAll then ["re.DOTALL"] else []) ++
    (if f.verbose then ["re.VERBOSE"] else []) ++ (if f.debug then ["re.DEBUG"] else []) ++
    (if f.ascii then ["re.ASCII"] else [])

/-- The text after a comment that ends in `last`; a backslash protects one character. -/
def afterComment (last : Char) : List Char → List Char
  | [] => []
  | '\\' :: _ :: rest => afterComment last rest
  | c :: rest => if c = last then rest else afterComment last rest

theorem length_afterComment_le (last : Char) (cs : List Char) :
    (afterComment last cs).length ≤ cs.length := by
  fun_induction afterComment last cs with
  | case1 => simp
  | case2 _ rest ih => simp; omega
  | case3 rest => simp
  | case4 c rest _ _ ih => simp; omega

/-- The flags that the beginning of a pattern switches on for all of it: groups of flag
letters before anything else, comments apart. Once `x` is on, blanks and line comments count
for nothing too. -/
def leading (known : Flags) (cs : List Char) : Flags :=
  match cs with
  | '(' :: '?' :: '#' :: rest => leading known (afterComment ')' rest)
  | '(' :: '?' :: rest =>
    let letters := rest.takeWhile fun c => (ofLetter? c).isSome
    match rest.drop letters.length with
    | ')' :: _ =>
      if letters.isEmpty then known
      else leading (known.union (ofLetters letters)) (rest.drop (letters.length + 1))
    | _ => known
  | c :: rest =>
    if known.verbose && [' ', '\t', '\n', '\r', '\x0b', '\x0c'].contains c then leading known rest
    else if known.verbose && c = '#' then leading known (afterComment '\n' rest)
    else known
  | [] => known
termination_by cs.length
decreasing_by
  · have := length_afterComment_le ')' rest
    simp
    omega
  · simp
    omega
  · simp
  · have := length_afterComment_le '\n' rest
    simp
    omega

end Flags

/-- The text of an expression: characters, or bytes. -/
inductive ExpressionText where
  | characters (s : String)
  | bytes (b : List UInt8)
  deriving DecidableEq

/-- The characters of a text; a byte counts as the one with its number. -/
def ExpressionText.toList : ExpressionText → List Char
  | .characters s => s.toList
  | .bytes b => b.map fun byte => Char.ofNat byte.toNat

def ExpressionText.quoted : ExpressionText → String
  | .characters s => Text.quoted s
  | .bytes b => Text.quotedBytes b

/-- A compiled expression, with the flags it was given. -/
structure Expression where
  text : ExpressionText
  given : Flags

namespace Expression

/-- All flags of an expression: the ones given and the ones its text sets. -/
def flags (e : Expression) : Flags := e.given.leading e.text.toList

/-- Expressions of the same text and the same flags are equal. -/
def equal (a b : Expression) : Bool := a.text == b.text && a.flags == b.flags

/-- How an expression is written down. Long texts are cut. -/
def display (e : Expression) : String :=
  let text := String.ofList (e.text.quoted.toList.take 200)
  match e.flags.names with
  | [] => "re.compile(" ++ text ++ ")"
  | names => "re.compile(" ++ text ++ ", " ++ "|".intercalate names ++ ")"

/-- The pattern text that stands for a text with flags. -/
def sourceOf (f : Flags) (s : String) : String :=
  match f.inlineLetters with
  | [] => s
  | letters => "(?" ++ String.ofList letters ++ ")" ++ s

end Expression

end ShapeMatch
